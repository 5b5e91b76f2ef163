import LedgerLookup.Text.Pieces
import Mathlib.Data.List.TakeWhile

/-!
# Where a text is cut and broken

A text is cut at every occurrence of a separator, and broken at the first character that satisfies a
predicate: what stands before the break does not satisfy it.
-/

namespace LedgerLookup.Text

/-! ### Cutting -/

theorem cutAt_of_not_mem {sep : Char} {cs : List Char} (h : sep ∉ cs) : cutAt sep cs = [cs] := by
  induction cs with
  | nil => rfl
  | cons c cs ih =>
    rw [List.mem_cons, not_or] at h
    simp [cutAt, ih h.2, Ne.symm h.1]

theorem cutAt_append {sep : Char} {cs : List Char} (h : sep ∉ cs) (rest : List Char) :
    cutAt sep (cs ++ sep :: rest) = cs :: cutAt sep rest := by
  induction cs with
  | nil => simp [cutAt]
  | cons c cs ih =>
    rw [List.mem_cons, not_or] at h
    simp [cutAt, ih h.2, Ne.symm h.1]

/-- Pieces that are joined are found again by cutting. -/
theorem cutAt_joinWith {sep : Char} {parts : List (List Char)} (hne : parts ≠ [])
    (h : ∀ part ∈ parts, sep ∉ part) : cutAt sep (joinWith sep parts) = parts := by
  induction parts with
  | nil => exact absurd rfl hne
  | cons part parts ih =>
    have hpart : sep ∉ part := h part List.mem_cons_self
    cases parts with
    | nil => exact cutAt_of_not_mem hpart
    | cons next parts =>
      have hrest := ih (List.cons_ne_nil _ _) fun p hp => h p (List.mem_cons_of_mem _ hp)
      show cutAt sep (part ++ sep :: joinWith sep (next :: parts)) = _
      rw [cutAt_append hpart, hrest]

/-- Joining pieces brings in no character but the separator. -/
theorem not_mem_joinWith {sep c : Char} {parts : List (List Char)} (hne : c ≠ sep)
    (h : ∀ part ∈ parts, c ∉ part) : c ∉ joinWith sep parts := by
  induction parts with
  | nil => exact List.not_mem_nil
  | cons part parts ih =>
    have hpart : c ∉ part := h part List.mem_cons_self
    have hrest : c ∉ joinWith sep parts := ih fun p hp => h p (List.mem_cons_of_mem _ hp)
    cases parts with
    | nil => exact hpart
    | cons next parts =>
      show c ∉ part ++ sep :: joinWith sep (next :: parts)
      simp only [List.mem_append, List.mem_cons, not_or]
      exact ⟨hpart, hne, hrest⟩

/-- The last piece of a text that does not end in a separator ends as the text does. -/
theorem exists_cutAt_append_singleton {sep last : Char} (h : last ≠ sep) (cs : List Char) :
    ∃ pieces piece, cutAt sep (cs ++ [last]) = pieces ++ [piece ++ [last]] := by
  induction cs with
  | nil => exact ⟨[], [], by simp [cutAt, h]⟩
  | cons c cs ih =>
    obtain ⟨pieces, piece, hcut⟩ := ih
    by_cases hc : c = sep
    · exact ⟨[] :: pieces, piece, by simp [cutAt, hc, hcut]⟩
    · cases pieces with
      | nil => exact ⟨[], c :: piece, by simp [cutAt, hc, hcut]⟩
      | cons p pieces => exact ⟨(c :: p) :: pieces, piece, by simp [cutAt, hc, hcut]⟩

/-- What is dropped at the start of a text ends before a character that is kept. -/
theorem exists_dropWhile_append_singleton {p : Char → Bool} {last : Char} (h : p last = false)
    (cs : List Char) : ∃ kept, (cs ++ [last]).dropWhile p = kept ++ [last] := by
  rw [List.dropWhile_append]
  split_ifs
  · exact ⟨[], by simp [h]⟩
  · exact ⟨_, rfl⟩

/-! ### Breaking -/

variable {p : Char → Bool}

theorem breakAt_append_cons {front : List Char} {c : Char} (hfront : ∀ d ∈ front, p d = false)
    (hc : p c = true) (back : List Char) : breakAt p (front ++ c :: back) = (front, c :: back) := by
  have hnot : ∀ d ∈ front, (!p d) = true := fun d hd => by simp [hfront d hd]
  simp [breakAt, List.takeWhile_append_of_pos hnot, List.dropWhile_append_of_pos hnot, hc]

theorem breakAt_of_forall {cs : List Char} (h : ∀ c ∈ cs, p c = false) :
    breakAt p cs = (cs, []) := by
  have hnot : ∀ c ∈ cs, (!p c) = true := fun c hc => by simp [h c hc]
  rw [breakAt, List.takeWhile_eq_self_iff.mpr hnot, List.dropWhile_eq_nil_iff.mpr hnot]

theorem append_of_breakAt {cs front back : List Char} (h : breakAt p cs = (front, back)) :
    cs = front ++ back := by
  obtain ⟨rfl, rfl⟩ := Prod.mk.inj h
  exact List.takeWhile_append_dropWhile.symm

theorem not_of_mem_breakAt {cs front back : List Char} (h : breakAt p cs = (front, back))
    {d : Char} (hd : d ∈ front) : p d = false := by
  obtain ⟨rfl, -⟩ := Prod.mk.inj h
  simpa using List.mem_takeWhile_imp hd

theorem head_of_breakAt {cs front back : List Char} {c : Char}
    (h : breakAt p cs = (front, c :: back)) : p c = true := by
  obtain ⟨-, hback⟩ := Prod.mk.inj h
  have hne : cs.dropWhile (fun c => !p c) ≠ [] := by simp [hback]
  simpa [hback] using List.head_dropWhile_not (fun c => !p c) hne

/-- What is added to a text comes after its break. -/
theorem breakAt_append_of_broken {cs front back : List Char} {c : Char}
    (h : breakAt p cs = (front, c :: back)) (rest : List Char) :
    breakAt p (cs ++ rest) = (front, c :: (back ++ rest)) := by
  rw [append_of_breakAt h, List.append_assoc, List.cons_append]
  exact breakAt_append_cons (fun d hd => not_of_mem_breakAt h hd) (head_of_breakAt h) _

/-- What is added to a text without a break is broken itself. -/
theorem breakAt_append_of_unbroken {cs front : List Char} (h : breakAt p cs = (front, []))
    {rest front' back : List Char} (hrest : breakAt p rest = (front', back)) :
    breakAt p (cs ++ rest) = (cs ++ front', back) := by
  have hcs : cs = front := by simpa using append_of_breakAt h
  have hnot : ∀ d ∈ cs, (!p d) = true := fun d hd => by
    simp [not_of_mem_breakAt h (hcs ▸ hd)]
  obtain ⟨rfl, rfl⟩ := Prod.mk.inj hrest
  simp [breakAt, List.takeWhile_append_of_pos hnot, List.dropWhile_append_of_pos hnot]

end LedgerLookup.Text
