import LedgerLookup.Page
import LedgerLookup.Proofs.Results

/-!
# Pages that can be sent

Exactly which pages are refused, with which bound and value, and what the window of every other
page is.
-/

namespace LedgerLookup.Page

/-- No bound of the page that is given keeps it from being sent. -/
structure Sendable (p : Page) : Prop where
  offset : ∀ i, p.offset = some i → 0 ≤ i.val
  limit : ∀ i, p.limit = some i → 0 < i.val

/-- The window has the bounds that the page gives, and the standard ones in place of the others. -/
structure FilledBy (p : Page) (w : Window) : Prop where
  offset : w.offset.val = (p.offset.map Word.val).getD 0
  limit : w.limit.val = (p.limit.map Word.val).getD 25

theorem unsigned?_of_nonneg {i : Word .i64} (h : 0 ≤ i.val) :
    ∃ n : Word .u64, unsigned? i = some n ∧ n.val = i.val := by
  have hlt : i.val < Width.high .u64 := Int.lt_of_lt_of_le i.lt_high (by decide)
  have hr : Width.low .u64 ≤ i.val ∧ i.val < Width.high .u64 := ⟨h, hlt⟩
  exact ⟨⟨i.val, hr.1, hr.2⟩, by simp [unsigned?, Word.ofInt?, hr], rfl⟩

theorem unsigned?_of_neg {i : Word .i64} (h : i.val < 0) : unsigned? i = none := by
  have hr : ¬ (Width.low .u64 ≤ i.val ∧ i.val < Width.high .u64) := fun hr =>
    absurd hr.1 (by simp [Width.low]; omega)
  simp [unsigned?, Word.ofInt?, hr]

/-! ### The bounds one by one -/

theorem sentOffset_of_nonneg {p : Page} (h : ∀ i, p.offset = some i → 0 ≤ i.val) :
    ∃ n, p.sentOffset = .ok n ∧ n.val = (p.offset.map Word.val).getD 0 := by
  unfold sentOffset
  cases ho : p.offset with
  | none => exact ⟨_, rfl, rfl⟩
  | some i =>
    obtain ⟨n, hn, hv⟩ := unsigned?_of_nonneg (h i ho)
    exact ⟨n, by simp [hn], by simpa using hv⟩

theorem sentOffset_of_neg {p : Page} {i : Word .i64} (ho : p.offset = some i) (hi : i.val < 0) :
    p.sentOffset = .error ⟨.offset, i.val⟩ := by
  simp [sentOffset, ho, unsigned?_of_neg hi]

theorem sentLimit_of_pos {p : Page} (h : ∀ i, p.limit = some i → 0 < i.val) :
    ∃ n, p.sentLimit = .ok n ∧ n.val = (p.limit.map Word.val).getD 25 := by
  unfold sentLimit
  cases hl : p.limit with
  | none => exact ⟨_, rfl, rfl⟩
  | some i =>
    have hpos := h i hl
    obtain ⟨n, hn, hv⟩ := unsigned?_of_nonneg (Int.le_of_lt hpos)
    have hne : n.val ≠ 0 := by omega
    exact ⟨n, by simp [hn, hne], by simpa using hv⟩

theorem sentLimit_of_nonpos {p : Page} {i : Word .i64} (hl : p.limit = some i)
    (hi : i.val ≤ 0) : p.sentLimit = .error ⟨.limit, i.val⟩ := by
  by_cases hneg : i.val < 0
  · simp [sentLimit, hl, unsigned?_of_neg hneg]
  · have hz : i.val = 0 := by omega
    obtain ⟨n, hn, hv⟩ := unsigned?_of_nonneg (i := i) (by omega)
    simp [sentLimit, hl, hn, hv, hz]

/-! ### The window -/

/-- An offset below zero is reported whatever the limit is. -/
theorem window_of_offset_neg {p : Page} {i : Word .i64} (ho : p.offset = some i)
    (hi : i.val < 0) : p.window = .error ⟨.offset, i.val⟩ := by
  simp [window, sentOffset_of_neg ho hi]

/-- A limit below one is reported when the offset can be sent. -/
theorem window_of_limit_nonpos {p : Page} {i : Word .i64}
    (ho : ∀ j, p.offset = some j → 0 ≤ j.val) (hl : p.limit = some i) (hi : i.val ≤ 0) :
    p.window = .error ⟨.limit, i.val⟩ := by
  obtain ⟨n, hn, -⟩ := sentOffset_of_nonneg ho
  simp [window, hn, sentLimit_of_nonpos hl hi]

theorem Sendable.exists_window {p : Page} (h : p.Sendable) :
    ∃ w, p.window = .ok w ∧ p.FilledBy w := by
  obtain ⟨n, hn, hno⟩ := sentOffset_of_nonneg h.offset
  obtain ⟨m, hm, hml⟩ := sentLimit_of_pos h.limit
  exact ⟨⟨n, m⟩, by simp [window, hn, hm, pure, Except.pure], hno, hml⟩

/-- A page has a window exactly when no bound keeps it from being sent. -/
theorem sendable_iff {p : Page} : p.Sendable ↔ ∃ w, p.window = .ok w := by
  constructor
  · intro h
    obtain ⟨w, hw, -⟩ := h.exists_window
    exact ⟨w, hw⟩
  · rintro ⟨w, hw⟩
    have ho : ∀ i, p.offset = some i → 0 ≤ i.val := by
      intro i hi
      by_contra hneg
      rw [window_of_offset_neg hi (by omega)] at hw
      cases hw
    refine ⟨ho, fun i hi => ?_⟩
    by_contra hnonpos
    rw [window_of_limit_nonpos ho hi (by omega)] at hw
    cases hw

end LedgerLookup.Page
