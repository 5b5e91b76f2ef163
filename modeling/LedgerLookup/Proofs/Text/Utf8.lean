import LedgerLookup.Text.Utf8
import Mathlib.Tactic.Common

/-!
# UTF-8 read back

The bytes of a text are read as that text, letter by letter: the reader is between two characters
before and after the bytes of each character, whatever follows them.
-/

namespace LedgerLookup.Text.Utf8

/-! ### Steps of the reader -/

theorem toNat_ofNat_of_lt {n : Nat} (h : n < 256) : (UInt8.ofNat n).toNat = n := by
  simp [Nat.mod_eq_of_lt h]

/-- A byte that starts no longer character is read at once. -/
theorem lettersFrom_single {n : Nat} (h : n < 0x80) (rest : List UInt8) :
    lettersFrom .between (.ofNat n :: rest) = some (Char.ofNat n) :: lettersFrom .between rest := by
  simp [lettersFrom, step, start, toNat_ofNat_of_lt (Nat.lt_trans h (by decide : 0x80 < 256)), h]

/-- The last byte of a character. -/
theorem lettersFrom_last {low high acc n : Nat} (hlow : low ≤ n) (hhigh : n ≤ high) (h : n < 256)
    (rest : List UInt8) :
    lettersFrom (.inside 0 low high acc) (.ofNat n :: rest) =
      some (Char.ofNat (acc * 64 + (n - 0x80))) :: lettersFrom .between rest := by
  simp [lettersFrom, step, toNat_ofNat_of_lt h, hlow, hhigh]

/-- A byte inside a character that more bytes follow. -/
theorem lettersFrom_inner {more low high acc n : Nat} (hlow : low ≤ n) (hhigh : n ≤ high)
    (h : n < 256) (rest : List UInt8) :
    lettersFrom (.inside (more + 1) low high acc) (.ofNat n :: rest) =
      lettersFrom (.inside more 0x80 0xBF (acc * 64 + (n - 0x80))) rest := by
  simp [lettersFrom, step, toNat_ofNat_of_lt h, hlow, hhigh]

/-- The first byte of a character of two bytes. -/
theorem lettersFrom_leadTwo {n : Nat} (hlow : 0xC2 ≤ n) (hhigh : n ≤ 0xDF) (rest : List UInt8) :
    lettersFrom .between (.ofNat n :: rest) =
      lettersFrom (.inside 0 0x80 0xBF (n - 0xC0)) rest := by
  have hstart : start n = ([], .inside 0 0x80 0xBF (n - 0xC0)) := by
    unfold start
    rw [if_neg (by omega), if_pos ⟨hlow, hhigh⟩]
  rw [lettersFrom, toNat_ofNat_of_lt (by omega), step, hstart]
  rfl

/-- The first byte of a character of three bytes, which bounds the second. -/
theorem lettersFrom_leadThree {n : Nat} (hlow : 0xE0 ≤ n) (hhigh : n ≤ 0xEF) (rest : List UInt8) :
    lettersFrom .between (.ofNat n :: rest) =
      lettersFrom (.inside 1 (if n = 0xE0 then 0xA0 else 0x80) (if n = 0xED then 0x9F else 0xBF)
        (n - 0xE0)) rest := by
  have hstart : start n = ([], .inside 1 (if n = 0xE0 then 0xA0 else 0x80)
      (if n = 0xED then 0x9F else 0xBF) (n - 0xE0)) := by
    unfold start
    rw [if_neg (by omega), if_neg (by omega)]
    by_cases h0 : n = 0xE0
    · subst h0; rfl
    · by_cases hD : n = 0xED
      · subst hD; rfl
      · rw [if_neg h0, if_neg hD, if_pos ⟨by omega, hhigh⟩, if_neg h0, if_neg hD]
  rw [lettersFrom, toNat_ofNat_of_lt (by omega), step, hstart]
  rfl

/-- The first byte of a character of four bytes, which bounds the second. -/
theorem lettersFrom_leadFour {n : Nat} (hlow : 0xF0 ≤ n) (hhigh : n ≤ 0xF4) (rest : List UInt8) :
    lettersFrom .between (.ofNat n :: rest) =
      lettersFrom (.inside 2 (if n = 0xF0 then 0x90 else 0x80) (if n = 0xF4 then 0x8F else 0xBF)
        (n - 0xF0)) rest := by
  have hstart : start n = ([], .inside 2 (if n = 0xF0 then 0x90 else 0x80)
      (if n = 0xF4 then 0x8F else 0xBF) (n - 0xF0)) := by
    unfold start
    rw [if_neg (by omega), if_neg (by omega), if_neg (by omega), if_neg (by omega),
      if_neg (by omega)]
    by_cases h0 : n = 0xF0
    · subst h0; rfl
    · by_cases h4 : n = 0xF4
      · subst h4; rfl
      · rw [if_neg h0, if_pos ⟨by omega, by omega⟩, if_neg h0, if_neg h4]
  rw [lettersFrom, toNat_ofNat_of_lt (by omega), step, hstart]
  rfl

/-! ### Characters and texts -/

/-- The bytes of a character are read as that character. -/
theorem lettersFrom_encodeChar (c : Char) (rest : List UInt8) :
    lettersFrom .between (encodeChar c ++ rest) = some c :: lettersFrom .between rest := by
  have hvalid : c.toNat < 0xD800 ∨ 0xDFFF < c.toNat ∧ c.toNat < 0x110000 := c.valid
  have hchar : ∀ n, n = c.toNat → some (Char.ofNat n) = some c := by
    rintro n rfl
    rw [Char.ofNat_toNat]
  simp only [encodeChar]
  split_ifs with h1 h2 h3
  · rw [List.singleton_append, lettersFrom_single h1, Char.ofNat_toNat]
  · simp only [List.cons_append, List.nil_append]
    rw [lettersFrom_leadTwo (by omega) (by omega),
      lettersFrom_last (by omega) (by omega) (by omega), hchar _ (by omega)]
  · simp only [List.cons_append, List.nil_append]
    rw [lettersFrom_leadThree (by omega) (by omega),
      lettersFrom_inner (by split_ifs <;> omega) (by split_ifs <;> omega) (by omega),
      lettersFrom_last (by omega) (by omega) (by omega), hchar _ (by omega)]
  · simp only [List.cons_append, List.nil_append]
    rw [lettersFrom_leadFour (by omega) (by omega),
      lettersFrom_inner (by split_ifs <;> omega) (by split_ifs <;> omega) (by omega),
      lettersFrom_inner (by omega) (by omega) (by omega),
      lettersFrom_last (by omega) (by omega) (by omega), hchar _ (by omega)]

/-- The bytes of a text are read as its characters, without gaps. -/
theorem letters_encode (cs : List Char) : letters (encode cs) = cs.map some := by
  unfold letters encode
  induction cs with
  | nil => rfl
  | cons c cs ih => rw [List.flatMap_cons, lettersFrom_encodeChar, ih, List.map_cons]

theorem decode?_encode (cs : List Char) : decode? (encode cs) = some cs := by
  rw [decode?, letters_encode]
  induction cs with
  | nil => rfl
  | cons c cs ih => simp [List.mapM_cons, ih]

end LedgerLookup.Text.Utf8
