import LedgerLookup.Proofs.Text.Percent
import LedgerLookup.Proofs.Text.Pieces
import LedgerLookup.Url.Basic
import LedgerLookup.Url.Path

/-!
# Segments of a path

What becomes of the segments of a path as it is read.  A segment that stands for a directory does
not stay; every other one does, with escapes for what cannot stand in a path.  A component is such a
segment as it is, unless it stands for one of the texts `.` and `..`, which are components of their
own.
-/

namespace LedgerLookup.Url

open Text (cutAt)
open Text.Percent (isUnreserved encode decode? decode?_encode)

/-! ### Escapes -/

/-- What can stand in a part of a URL is not escaped there. -/
theorem escapeWhere_eq_self {escaped : Char → Bool} {cs : List Char}
    (h : ∀ c ∈ cs, 0x20 ≤ c.toNat ∧ c.toNat < 0x7F ∧ escaped c = false) :
    escapeWhere escaped cs = cs := by
  unfold escapeWhere
  induction cs with
  | nil => rfl
  | cons c cs ih =>
    obtain ⟨hlow, hhigh, hc⟩ := h c List.mem_cons_self
    rw [List.flatMap_cons, ih fun d hd => h d (List.mem_cons_of_mem c hd), if_neg]
    · rfl
    · simp [hc]
      omega

theorem escapeWhere_ne_nil {escaped : Char → Bool} {cs : List Char} (h : cs ≠ []) :
    escapeWhere escaped cs ≠ [] := by
  obtain ⟨c, cs, rfl⟩ := List.exists_cons_of_ne_nil h
  unfold escapeWhere
  rw [List.flatMap_cons]
  split_ifs
  · have henc : Text.Utf8.encodeChar c ≠ [] := by
      simp only [Text.Utf8.encodeChar]
      split_ifs <;> simp
    obtain ⟨b, bs, hb⟩ := List.exists_cons_of_ne_nil henc
    simp [hb, Text.Percent.escape]
  · simp

/-- The characters of components stand for themselves throughout a URL. -/
theorem plain_of_mem_encode {cs : List Char} {c : Char} (h : c ∈ encode cs) :
    0x20 < c.toNat ∧ c.toNat < 0x7F ∧ escapedInPath c = false ∧ c ∉ ['/', '\\', '?', '#'] := by
  have hall : ∀ n : Fin 128, isUnreserved (Char.ofNat n.val) = true ∨ Char.ofNat n.val = '%' →
      0x20 < n.val ∧ n.val < 0x7F ∧ escapedInPath (Char.ofNat n.val) = false ∧
        Char.ofNat n.val ∉ ['/', '\\', '?', '#'] := by
    decide
  have hc := Text.Percent.isUnreserved_or_percent_of_mem_encode h
  have hlt : c.toNat < 128 := by
    rcases hc with hun | rfl
    · exact Text.Percent.lt_of_isUnreserved hun
    · decide
  simpa using hall ⟨c.toNat, hlt⟩ (by simpa using hc)

theorem not_mem_encode {mark : Char} (h : mark ∈ ['/', '\\', '?', '#']) (cs : List Char) :
    mark ∉ encode cs := fun hmem => (plain_of_mem_encode hmem).2.2.2 h

/-! ### Directories -/

/-- Every character but a capital letter is its own small form. -/
theorem lower_eq_or (c : Char) :
    lower c = c ∨ 65 ≤ c.toNat ∧ c.toNat ≤ 90 ∧ (lower c).toNat = c.toNat + 32 := by
  unfold lower
  split_ifs with hc
  · have hlow : 65 ≤ c.toNat := hc.1
    have hhigh : c.toNat ≤ 90 := hc.2
    refine Or.inr ⟨hlow, hhigh, ?_⟩
    rw [Char.ofNat, dif_pos (Or.inl (by omega))]
    rfl
  · exact Or.inl rfl

theorem eq_of_lower_eq {c d : Char} (h : lower c = d) (hd : d.toNat < 97 ∨ 122 < d.toNat) :
    c = d := by
  rcases lower_eq_or c with hsame | ⟨hlow, hhigh, hlower⟩
  · exact hsame.symm.trans h
  · rw [h] at hlower
    omega

theorem eq_of_lower_eq_e {c : Char} (h : lower c = 'e') : c = 'e' ∨ c = 'E' := by
  rcases lower_eq_or c with hsame | ⟨-, -, hlower⟩
  · exact Or.inl (hsame.symm.trans h)
  · rw [h] at hlower
    have hE : c.toNat = 'E'.toNat := by
      have he : 'e'.toNat = 101 := rfl
      have hE : 'E'.toNat = 69 := rfl
      omega
    exact Or.inr (Char.toNat_inj.mp hE)

/-- The written forms of a dot, with the escape in either case. -/
def dotForms : List (List Char) := [".", "%2e", "%2E"].map String.toList

theorem mem_dotForms {cs : List Char}
    (h : cs.map lower = ".".toList ∨ cs.map lower = "%2e".toList) : cs ∈ dotForms := by
  rcases h with h | h
  · obtain ⟨a, rfl, ha⟩ : ∃ a, cs = [a] ∧ lower a = '.' := by
      simpa [List.map_eq_cons_iff] using h
    rw [eq_of_lower_eq ha (by decide)]
    decide
  · obtain ⟨a, b, c, rfl, ha, hb, hc⟩ :
        ∃ a b c, cs = [a, b, c] ∧ lower a = '%' ∧ lower b = '2' ∧ lower c = 'e' := by
      simpa [List.map_eq_cons_iff] using h
    rw [eq_of_lower_eq ha (by decide), eq_of_lower_eq hb (by decide)]
    rcases eq_of_lower_eq_e hc with rfl | rfl
    · decide
    · decide

/-- A segment that stands for the directory itself is a component for one dot. -/
theorem decode?_of_isSingleDot {segment : List Char} (h : isSingleDot segment = true) :
    decode? segment = some ['.'] := by
  have hmem : segment ∈ dotForms := by
    apply mem_dotForms
    simpa [isSingleDot, String.ext_iff] using h
  have hall : ∀ cs ∈ dotForms, decode? cs = some ['.'] := by decide
  exact hall segment hmem

/-- A segment that stands for the directory above is a component for two dots. -/
theorem decode?_of_isDoubleDot {segment : List Char} (h : isDoubleDot segment = true) :
    decode? segment = some ['.', '.'] := by
  have hforms : ∃ front back, segment.map lower = front ++ back ∧
      (front = ".".toList ∨ front = "%2e".toList) ∧ (back = ".".toList ∨ back = "%2e".toList) := by
    simp only [isDoubleDot, List.contains_eq_mem, List.mem_cons, List.not_mem_nil, or_false,
      decide_eq_true_eq, String.ext_iff, String.toList_ofList] at h
    rcases h with h | h | h | h
    · exact ⟨_, _, h, Or.inl rfl, Or.inl rfl⟩
    · exact ⟨_, _, h, Or.inl rfl, Or.inr rfl⟩
    · exact ⟨"%2e".toList, ".".toList, h, Or.inr rfl, Or.inl rfl⟩
    · exact ⟨"%2e".toList, "%2e".toList, h, Or.inr rfl, Or.inr rfl⟩
  obtain ⟨front, back, hseg, hfront, hback⟩ := hforms
  obtain ⟨x, y, rfl, rfl, rfl⟩ := List.map_eq_append_iff.mp hseg
  have hall : ∀ x ∈ dotForms, ∀ y ∈ dotForms, decode? (x ++ y) = some ['.', '.'] := by decide
  exact hall x (mem_dotForms hfront) y (mem_dotForms hback)

/-- Only one text is a component that stands for the directory itself. -/
theorem isSingleDot_encode {cs : List Char} : isSingleDot (encode cs) = true ↔ cs = ['.'] := by
  constructor
  · intro h
    exact Option.some.inj ((decode?_encode cs).symm.trans (decode?_of_isSingleDot h))
  · rintro rfl
    decide

/-- Only one text is a component that stands for the directory above. -/
theorem isDoubleDot_encode {cs : List Char} :
    isDoubleDot (encode cs) = true ↔ cs = ['.', '.'] := by
  constructor
  · intro h
    exact Option.some.inj ((decode?_encode cs).symm.trans (decode?_of_isDoubleDot h))
  · rintro rfl
    decide

/-- A segment that stands for a directory ends in a dot or in the escape of one. -/
theorem getLast?_of_isDot {segment : List Char}
    (h : isSingleDot segment = true ∨ isDoubleDot segment = true) :
    (segment.map lower).getLast? = some '.' ∨ (segment.map lower).getLast? = some 'e' := by
  simp only [isSingleDot, isDoubleDot, List.contains_eq_mem, List.mem_cons, List.not_mem_nil,
    or_false, decide_eq_true_eq, String.ext_iff, String.toList_ofList] at h
  rcases h with (h | h) | h | h | h | h <;> simp [h]

/-- A component is written in a path as it is. -/
theorem writtenSegment_encode (first : Bool) (cs : List Char) :
    writtenSegment false first (encode cs) = encode cs := by
  rw [writtenSegment, if_neg (by simp)]
  refine escapeWhere_eq_self fun c hc => ?_
  obtain ⟨hlow, hhigh, hesc, -⟩ := plain_of_mem_encode hc
  exact ⟨Nat.le_of_lt hlow, hhigh, hesc⟩

/-! ### Whole paths -/

theorem rawSegments_of_no_backslash {special : Bool} {cs : List Char} (h : '\\' ∉ cs) :
    rawSegments special cs = cutAt '/' cs := by
  have hsame : ∀ c ∈ cs, (if isSlash special c then '/' else c) = c := by
    intro c hc
    have hne : c ≠ '\\' := ne_of_mem_of_not_mem hc h
    by_cases hslash : c = '/'
    · simp [hslash]
    · simp [isSlash, hslash, hne]
  rw [rawSegments, List.map_congr_left hsame, List.map_id']

/-- A segment that stands for no directory stays. -/
theorem normalSegments_cons {inFile : Bool} {kept : List (List Char)} {segment : List Char}
    {rest : List (List Char)} (hone : isSingleDot segment = false)
    (htwo : isDoubleDot segment = false) :
    normalSegments inFile kept (segment :: rest) =
      normalSegments inFile (writtenSegment inFile kept.isEmpty segment :: kept) rest := by
  simp [normalSegments, hone, htwo]

/-- The last segment of a path stays when it stands for no directory. -/
theorem getLast?_normalSegments {inFile : Bool} {last : List Char} (hone : isSingleDot last = false)
    (htwo : isDoubleDot last = false) (kept front : List (List Char)) :
    ∃ first, (normalSegments inFile kept (front ++ [last])).getLast? =
      some (writtenSegment inFile first last) := by
  induction front generalizing kept with
  | nil => exact ⟨kept.isEmpty, by simp [normalSegments_cons hone htwo, normalSegments]⟩
  | cons segment front ih =>
    rw [List.cons_append, normalSegments, if_neg (by simp)]
    exact ih _

theorem cutAt_append_segments {part : List Char} {parts : List (List Char)} (hpart : '/' ∉ part)
    (h : ∀ p ∈ parts, '/' ∉ p) :
    cutAt '/' (part ++ (Path.segments parts).text) = part :: parts := by
  induction parts generalizing part with
  | nil => simpa [Path.text] using Text.cutAt_of_not_mem hpart
  | cons p parts ih =>
    have htext : (Path.segments (p :: parts)).text = '/' :: (p ++ (Path.segments parts).text) := by
      simp [Path.text]
    rw [htext, Text.cutAt_append hpart,
      ih (h p List.mem_cons_self) fun q hq => h q (List.mem_cons_of_mem p hq)]

/-- The segments of a path can be told from its text. -/
theorem cutAt_segments {parts : List (List Char)} (h : ∀ p ∈ parts, '/' ∉ p) :
    cutAt '/' (Path.segments parts).text = [] :: parts :=
  cutAt_append_segments List.not_mem_nil h

end LedgerLookup.Url
