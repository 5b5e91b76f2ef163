import LedgerLookup.Proofs.Text.Digits
import LedgerLookup.Text.Blank
import Mathlib.Data.List.DropRight
import Mathlib.Data.List.TakeWhile

/-!
# Trimming

Trimming takes blanks away at the ends of a text: all of them where the text has none inside, and
everything where it has nothing else.
-/

namespace LedgerLookup.Text

theorem isBlank_of_isDigit {c : Char} (h : isDigit c = true) : isBlank c = false := by
  obtain ⟨hlow, hhigh⟩ := toNat_of_isDigit h
  simp only [isBlank, Bool.or_eq_false_iff, Bool.and_eq_false_iff, beq_eq_false_iff_ne,
    decide_eq_false_iff_not]
  omega

theorem dropWhile_append_of_forall {p : Char → Bool} {front cs : List Char}
    (hfront : ∀ c ∈ front, p c = true) (hcs : ∀ c ∈ cs, p c = false) :
    (front ++ cs).dropWhile p = cs := by
  rw [List.dropWhile_append, List.dropWhile_eq_nil_iff.mpr hfront, List.isEmpty_nil, if_pos rfl]
  cases cs with
  | nil => rfl
  | cons c cs => exact List.dropWhile_cons_of_neg (by simp [hcs c List.mem_cons_self])

/-- What stands between blanks and holds none is what trimming leaves. -/
theorem trim_of_padded {front cs back : List Char} (hfront : ∀ c ∈ front, isBlank c = true)
    (hcs : ∀ c ∈ cs, isBlank c = false) (hback : ∀ c ∈ back, isBlank c = true) :
    trim (front ++ cs ++ back) = cs := by
  cases cs with
  | nil =>
    have hall : ∀ c ∈ front ++ back, isBlank c = true := fun c hc =>
      (List.mem_append.mp hc).elim (hfront c) (hback c)
    rw [List.append_nil, trim, trimStart, List.dropWhile_eq_nil_iff.mpr hall]
    rfl
  | cons c cs =>
    have hstart : trimStart (front ++ (c :: cs ++ back)) = c :: cs ++ back := by
      rw [trimStart, List.dropWhile_append, List.dropWhile_eq_nil_iff.mpr hfront]
      exact List.dropWhile_cons_of_neg (by simp [hcs c List.mem_cons_self])
    have hend : (back.reverse ++ (c :: cs).reverse).dropWhile isBlank = (c :: cs).reverse :=
      dropWhile_append_of_forall (fun d hd => hback d (List.mem_reverse.mp hd))
        fun d hd => hcs d (List.mem_reverse.mp hd)
    rw [List.append_assoc, trim, hstart, trimEnd, trimEndWhile, List.reverse_append, hend,
      List.reverse_reverse]

theorem exists_append_trimEnd (cs : List Char) :
    ∃ back, cs = trimEnd cs ++ back ∧ ∀ c ∈ back, isBlank c = true := by
  refine ⟨cs.rtakeWhile isBlank, ?_, fun c hc => List.mem_rtakeWhile_imp hc⟩
  exact List.rdropWhile_append_rtakeWhile.symm

/-- What trimming leaves stands between blanks. -/
theorem exists_padding (cs : List Char) : ∃ front back, cs = front ++ trim cs ++ back ∧
    (∀ c ∈ front, isBlank c = true) ∧ ∀ c ∈ back, isBlank c = true := by
  obtain ⟨back, hback, hblank⟩ := exists_append_trimEnd (trimStart cs)
  refine ⟨cs.takeWhile isBlank, back, ?_, fun c hc => List.mem_takeWhile_imp hc, hblank⟩
  have hstart : cs = cs.takeWhile isBlank ++ trimStart cs := List.takeWhile_append_dropWhile.symm
  rw [List.append_assoc, trim, ← hback]
  exact hstart

theorem trim_eq_nil_iff {cs : List Char} : trim cs = [] ↔ ∀ c ∈ cs, isBlank c = true := by
  constructor
  · intro h
    obtain ⟨front, back, hcs, hfront, hback⟩ := exists_padding cs
    rw [h, List.append_nil] at hcs
    intro c hc
    rw [hcs] at hc
    exact (List.mem_append.mp hc).elim (hfront c) (hback c)
  · intro h
    rw [trim, trimStart, List.dropWhile_eq_nil_iff.mpr h]
    rfl

end LedgerLookup.Text
