import LedgerLookup.Proofs.Text.Utf8
import Mathlib.Data.List.Infix

/-!
# Lossy reading

What the lenient reader of UTF-8 makes of any bytes, said without the reader.  Where a character
starts, that character is read.  Where none does, the longest run of bytes that could still have
become one, and otherwise a single byte, is read as one replacement character.  The bytes of a text
are read as that text, and any bytes are read as exactly one text.
-/

namespace LedgerLookup.Text.Utf8

/-! ### What lossy reading is -/

/-- The bytes are the first ones of some character. -/
def Begins (bytes : List UInt8) : Prop := ∃ c, bytes <+: encodeChar c

/-- The bytes from here on do not start with a whole character. -/
def Unconvertible (bytes : List UInt8) : Prop := ∀ c, ¬ encodeChar c <+: bytes

/-- The maximal subpart at the start of some bytes: as many of them as could be the first ones of a
character, and a single byte if there are none. -/
structure IsMaximalSubpart (sub bytes : List UInt8) : Prop where
  ne_nil : sub ≠ []
  isPrefix : sub <+: bytes
  begins : Begins sub ∨ sub.length = 1
  longest : ∀ longer, longer <+: bytes → Begins longer → longer.length ≤ sub.length

/-- Bytes and the text that they are read as when each maximal subpart that is no character is
replaced by U+FFFD. -/
inductive ReadsLossily : List UInt8 → List Char → Prop where
  | nil : ReadsLossily [] []
  | char (c : Char) {rest : List UInt8} {text : List Char} (htext : ReadsLossily rest text) :
      ReadsLossily (encodeChar c ++ rest) (c :: text)
  | gap {sub rest : List UInt8} {text : List Char} (hbad : Unconvertible (sub ++ rest))
      (hsub : IsMaximalSubpart sub (sub ++ rest)) (htext : ReadsLossily rest text) :
      ReadsLossily (sub ++ rest) ('\uFFFD' :: text)

/-- There is only one maximal subpart. -/
theorem IsMaximalSubpart.unique {sub sub' bytes : List UInt8} (h : IsMaximalSubpart sub bytes)
    (h' : IsMaximalSubpart sub' bytes) : sub = sub' := by
  have hle : ∀ {s s' : List UInt8}, IsMaximalSubpart s bytes → IsMaximalSubpart s' bytes →
      s.length ≤ s'.length := by
    intro s s' hs hs'
    rcases hs.begins with hbegins | hone
    · exact hs'.longest s hs.isPrefix hbegins
    · have hpos : 0 < s'.length := List.length_pos_of_ne_nil hs'.ne_nil
      omega
  have hlength : sub.length = sub'.length := le_antisymm (hle h h') (hle h' h)
  exact (List.prefix_of_prefix_length_le h.isPrefix h'.isPrefix hlength.le).eq_of_length hlength

/-! ### Characters from their bytes -/

theorem toNat_ofNat_of_isValidChar {n : Nat} (h : n.isValidChar) : (Char.ofNat n).toNat = n := by
  rw [Char.ofNat, dif_pos h]
  rfl

theorem eq_ofNat_of_toNat_eq {b : UInt8} {n : Nat} (h : n = b.toNat) : b = .ofNat n := by
  rw [h, UInt8.ofNat_toNat]

theorem encodeChar_ofNat {b : UInt8} (h : b.toNat < 0x80) :
    encodeChar (Char.ofNat b.toNat) = [b] := by
  have hvalid : b.toNat.isValidChar := Or.inl (by omega)
  rw [encodeChar, toNat_ofNat_of_isValidChar hvalid, if_pos h, UInt8.ofNat_toNat]

theorem exists_encodeChar_eq_two {b₀ b₁ : UInt8} (h₀ : 0xC2 ≤ b₀.toNat ∧ b₀.toNat ≤ 0xDF)
    (h₁ : 0x80 ≤ b₁.toNat ∧ b₁.toNat ≤ 0xBF) : ∃ c, [b₀, b₁] = encodeChar c := by
  let n := (b₀.toNat - 0xC0) * 64 + (b₁.toNat - 0x80)
  have hvalid : n.isValidChar := Or.inl (by omega)
  refine ⟨Char.ofNat n, ?_⟩
  rw [encodeChar, toNat_ofNat_of_isValidChar hvalid]
  rw [if_neg (by omega), if_pos (by omega), eq_ofNat_of_toNat_eq (b := b₀) (n := 0xC0 + n / 64)
    (by omega), eq_ofNat_of_toNat_eq (b := b₁) (n := 0x80 + n % 64) (by omega)]

theorem exists_encodeChar_eq_three {b₀ b₁ b₂ : UInt8} (h₀ : 0xE0 ≤ b₀.toNat ∧ b₀.toNat ≤ 0xEF)
    (h₁ : (if b₀.toNat = 0xE0 then 0xA0 else 0x80) ≤ b₁.toNat ∧
      b₁.toNat ≤ if b₀.toNat = 0xED then 0x9F else 0xBF)
    (h₂ : 0x80 ≤ b₂.toNat ∧ b₂.toNat ≤ 0xBF) : ∃ c, [b₀, b₁, b₂] = encodeChar c := by
  let n := ((b₀.toNat - 0xE0) * 64 + (b₁.toNat - 0x80)) * 64 + (b₂.toNat - 0x80)
  have hbound : 0x800 ≤ n ∧ n < 0x10000 ∧ (n < 0xD800 ∨ 0xDFFF < n) := by
    split_ifs at h₁ <;> omega
  have hlow : 0x80 ≤ b₁.toNat ∧ b₁.toNat ≤ 0xBF := by
    split_ifs at h₁ <;> omega
  have hvalid : n.isValidChar := by
    rcases hbound.2.2 with h | h
    · exact Or.inl h
    · exact Or.inr ⟨h, by omega⟩
  refine ⟨Char.ofNat n, ?_⟩
  rw [encodeChar, toNat_ofNat_of_isValidChar hvalid]
  rw [if_neg (by omega), if_neg (by omega), if_pos (by omega),
    eq_ofNat_of_toNat_eq (b := b₀) (n := 0xE0 + n / 4096) (by omega),
    eq_ofNat_of_toNat_eq (b := b₁) (n := 0x80 + n / 64 % 64) (by omega),
    eq_ofNat_of_toNat_eq (b := b₂) (n := 0x80 + n % 64) (by omega)]

theorem exists_encodeChar_eq_four {b₀ b₁ b₂ b₃ : UInt8}
    (h₀ : 0xF0 ≤ b₀.toNat ∧ b₀.toNat ≤ 0xF4)
    (h₁ : (if b₀.toNat = 0xF0 then 0x90 else 0x80) ≤ b₁.toNat ∧
      b₁.toNat ≤ if b₀.toNat = 0xF4 then 0x8F else 0xBF)
    (h₂ : 0x80 ≤ b₂.toNat ∧ b₂.toNat ≤ 0xBF) (h₃ : 0x80 ≤ b₃.toNat ∧ b₃.toNat ≤ 0xBF) :
    ∃ c, [b₀, b₁, b₂, b₃] = encodeChar c := by
  let n := (((b₀.toNat - 0xF0) * 64 + (b₁.toNat - 0x80)) * 64 + (b₂.toNat - 0x80)) * 64 +
    (b₃.toNat - 0x80)
  have hbound : 0x10000 ≤ n ∧ n < 0x110000 := by
    split_ifs at h₁ <;> omega
  have hlow : 0x80 ≤ b₁.toNat ∧ b₁.toNat ≤ 0xBF := by
    split_ifs at h₁ <;> omega
  have hvalid : n.isValidChar := Or.inr ⟨by omega, hbound.2⟩
  refine ⟨Char.ofNat n, ?_⟩
  rw [encodeChar, toNat_ofNat_of_isValidChar hvalid]
  rw [if_neg (by omega), if_neg (by omega), if_neg (by omega),
    eq_ofNat_of_toNat_eq (b := b₀) (n := 0xF0 + n / 262144) (by omega),
    eq_ofNat_of_toNat_eq (b := b₁) (n := 0x80 + n / 4096 % 64) (by omega),
    eq_ofNat_of_toNat_eq (b := b₂) (n := 0x80 + n / 64 % 64) (by omega),
    eq_ofNat_of_toNat_eq (b := b₃) (n := 0x80 + n % 64) (by omega)]

/-! ### Inside a character -/

/-- The bytes with which a character ends that the reader is inside. -/
inductive Finishes : State → List UInt8 → Prop where
  | last {low high acc : Nat} {b : UInt8} (hb : low ≤ b.toNat ∧ b.toNat ≤ high) :
      Finishes (.inside 0 low high acc) [b]
  | inner {more low high acc : Nat} {b : UInt8} {rest : List UInt8}
      (hb : low ≤ b.toNat ∧ b.toNat ≤ high)
      (hrest : Finishes (.inside more 0x80 0xBF (acc * 64 + (b.toNat - 0x80))) rest) :
      Finishes (.inside (more + 1) low high acc) (b :: rest)

/-- The reader has read `front` and is inside a character: it goes on from there, and whatever it
takes for the end of the character makes one. -/
structure Underway (front : List UInt8) (more low high acc : Nat) : Prop where
  ne_nil : front ≠ []
  range : low ≤ high ∧ high < 256
  reads : ∀ rest, lettersFrom .between (front ++ rest) =
    lettersFrom (.inside more low high acc) rest
  finished : ∀ rest, Finishes (.inside more low high acc) rest → ∃ c, front ++ rest = encodeChar c

theorem exists_finishes {low high : Nat} (hrange : low ≤ high ∧ high < 256) (more acc : Nat) :
    ∃ rest, Finishes (.inside more low high acc) rest := by
  have hb : low ≤ (UInt8.ofNat low).toNat ∧ (UInt8.ofNat low).toNat ≤ high := by
    rw [toNat_ofNat_of_lt (by omega)]
    exact ⟨le_rfl, hrange.1⟩
  induction more generalizing low high acc with
  | zero => exact ⟨_, .last hb⟩
  | succ more ih =>
    have hrange' : 0x80 ≤ 0xBF ∧ 0xBF < 256 := by decide
    obtain ⟨rest, hrest⟩ := ih hrange' (acc * 64 + ((UInt8.ofNat low).toNat - 0x80)) (by decide)
    exact ⟨_, .inner hb hrest⟩

namespace Underway

variable {front : List UInt8} {more low high acc : Nat} {b : UInt8}

theorem begins (h : Underway front more low high acc) : Begins front := by
  obtain ⟨rest, hrest⟩ := exists_finishes h.range more acc
  obtain ⟨c, hc⟩ := h.finished rest hrest
  exact ⟨c, rest, hc⟩

theorem char (h : Underway front 0 low high acc) (hb : low ≤ b.toNat ∧ b.toNat ≤ high) :
    ∃ c, front ++ [b] = encodeChar c :=
  h.finished [b] (.last hb)

theorem next (h : Underway front (more + 1) low high acc) (hb : low ≤ b.toNat ∧ b.toNat ≤ high) :
    Underway (front ++ [b]) more 0x80 0xBF (acc * 64 + (b.toNat - 0x80)) where
  ne_nil := by simp
  range := by decide
  reads rest := by
    have hread : lettersFrom (.inside (more + 1) low high acc) (.ofNat b.toNat :: rest) = _ :=
      lettersFrom_inner hb.1 hb.2 b.toNat_lt rest
    rw [UInt8.ofNat_toNat] at hread
    rw [List.append_assoc, h.reads, List.singleton_append, hread]
  finished rest hrest := by
    rw [List.append_assoc, List.singleton_append]
    exact h.finished (b :: rest) (.inner hb hrest)

end Underway

/-- The first byte of a character of more than one. -/
theorem underway_leadTwo {b : UInt8} (hb : 0xC2 ≤ b.toNat ∧ b.toNat ≤ 0xDF) :
    Underway [b] 0 0x80 0xBF (b.toNat - 0xC0) where
  ne_nil := List.cons_ne_nil _ _
  range := by decide
  reads rest := by
    have hread := lettersFrom_leadTwo hb.1 hb.2 rest
    rwa [UInt8.ofNat_toNat] at hread
  finished := by
    rintro _ ⟨h₁⟩
    exact exists_encodeChar_eq_two hb h₁

theorem underway_leadThree {b : UInt8} (hb : 0xE0 ≤ b.toNat ∧ b.toNat ≤ 0xEF) :
    Underway [b] 1 (if b.toNat = 0xE0 then 0xA0 else 0x80) (if b.toNat = 0xED then 0x9F else 0xBF)
      (b.toNat - 0xE0) where
  ne_nil := List.cons_ne_nil _ _
  range := by split_ifs <;> omega
  reads rest := by
    have hread := lettersFrom_leadThree hb.1 hb.2 rest
    rwa [UInt8.ofNat_toNat] at hread
  finished := by
    rintro _ (_ | ⟨h₁, ⟨h₂⟩⟩)
    exact exists_encodeChar_eq_three hb h₁ h₂

theorem underway_leadFour {b : UInt8} (hb : 0xF0 ≤ b.toNat ∧ b.toNat ≤ 0xF4) :
    Underway [b] 2 (if b.toNat = 0xF0 then 0x90 else 0x80) (if b.toNat = 0xF4 then 0x8F else 0xBF)
      (b.toNat - 0xF0) where
  ne_nil := List.cons_ne_nil _ _
  range := by split_ifs <;> omega
  reads rest := by
    have hread := lettersFrom_leadFour hb.1 hb.2 rest
    rwa [UInt8.ofNat_toNat] at hread
  finished := by
    rintro _ (_ | ⟨h₁, _ | ⟨h₂, ⟨h₃⟩⟩⟩)
    exact exists_encodeChar_eq_four hb h₁ h₂ h₃

/-! ### Gaps -/

/-- A gap comes first: the maximal subpart, after which the reader is between characters again. -/
def StartsWithGap (bytes : List UInt8) : Prop :=
  ∃ sub rest, bytes = sub ++ rest ∧ IsMaximalSubpart sub bytes ∧
    letters bytes = none :: letters rest

/-- What is read as a gap at once, whatever follows, is not the beginning of a character. -/
theorem not_begins_of_gap {bytes : List UInt8}
    (h : ∀ rest, ∃ others, lettersFrom .between (bytes ++ rest) = none :: others) :
    ¬ Begins bytes := by
  rintro ⟨c, rest, hc⟩
  obtain ⟨others, hothers⟩ := h rest
  have hchar := lettersFrom_encodeChar c []
  rw [List.append_nil, ← hc, hothers] at hchar
  simp at hchar

/-- A gap ends where no further byte makes the beginning of a character. -/
theorem startsWithGap_of_stuck {front rest : List UInt8} (hne : front ≠ [])
    (hbegins : Begins front ∨ front.length = 1)
    (hstuck : ∀ b after tail, rest = b :: after → ¬ Begins (front ++ b :: tail))
    (hletters : letters (front ++ rest) = none :: letters rest) :
    StartsWithGap (front ++ rest) := by
  refine ⟨front, rest, rfl, ⟨hne, List.prefix_append _ _, hbegins, ?_⟩, hletters⟩
  intro longer hprefix hlonger
  by_contra hlt
  obtain ⟨more, rfl⟩ := List.prefix_of_prefix_length_le (List.prefix_append front rest) hprefix
    (by omega)
  cases more with
  | nil => simp at hlt
  | cons b tail =>
    obtain ⟨after, hafter⟩ := (List.prefix_append_right_inj front).mp hprefix
    exact hstuck b (tail ++ after) tail hafter.symm hlonger

/-- A byte that cannot go on with a character is read afresh, after a gap. -/
theorem lettersFrom_outside {more low high acc : Nat} {b : UInt8}
    (hout : ¬ (low ≤ b.toNat ∧ b.toNat ≤ high)) (rest : List UInt8) :
    lettersFrom (.inside more low high acc) (b :: rest) =
      none :: lettersFrom .between (b :: rest) := by
  simp [lettersFrom, step, hout]

/-- A character that is underway goes on with the next byte, or else it is broken off there. -/
theorem Underway.goes_on_or_gap {front : List UInt8} {more low high acc : Nat}
    (h : Underway front more low high acc) (rest : List UInt8) :
    (∃ b after, rest = b :: after ∧ low ≤ b.toNat ∧ b.toNat ≤ high) ∨
      StartsWithGap (front ++ rest) := by
  by_cases hnext : ∃ b after, rest = b :: after ∧ low ≤ b.toNat ∧ b.toNat ≤ high
  · exact .inl hnext
  have hout : ∀ b after, rest = b :: after → ¬ (low ≤ b.toNat ∧ b.toNat ≤ high) :=
    fun b after hrest hb => hnext ⟨b, after, hrest, hb⟩
  refine .inr (startsWithGap_of_stuck h.ne_nil (.inl h.begins) ?_ ?_)
  · intro b after tail hrest
    apply not_begins_of_gap
    intro others
    refine ⟨lettersFrom .between (b :: (tail ++ others)), ?_⟩
    rw [List.append_assoc, h.reads, List.cons_append, lettersFrom_outside (hout b after hrest)]
  · rw [letters, h.reads]
    cases rest with
    | nil => rfl
    | cons b after => exact lettersFrom_outside (hout b after rfl) after

/-- A character that is underway is read to its end, or else there is a gap. -/
theorem Underway.char_or_gap {front : List UInt8} {more low high acc : Nat}
    (h : Underway front more low high acc) (rest : List UInt8) :
    (∃ c after, front ++ rest = encodeChar c ++ after) ∨ StartsWithGap (front ++ rest) := by
  induction more generalizing front low high acc rest with
  | zero =>
    rcases h.goes_on_or_gap rest with ⟨b, after, rfl, hb⟩ | hgap
    · obtain ⟨c, hc⟩ := h.char hb
      exact .inl ⟨c, after, by rw [← hc, List.append_assoc, List.singleton_append]⟩
    · exact .inr hgap
  | succ more ih =>
    rcases h.goes_on_or_gap rest with ⟨b, after, rfl, hb⟩ | hgap
    · have hnext := ih (h.next hb) after
      rwa [List.append_assoc, List.singleton_append] at hnext
    · exact .inr hgap

/-- Some bytes start with a character or with a gap. -/
theorem char_or_gap (b : UInt8) (rest : List UInt8) :
    (∃ c after, b :: rest = encodeChar c ++ after) ∨ StartsWithGap (b :: rest) := by
  by_cases hone : b.toNat < 0x80
  · exact .inl ⟨Char.ofNat b.toNat, rest, by rw [encodeChar_ofNat hone, List.singleton_append]⟩
  by_cases htwo : 0xC2 ≤ b.toNat ∧ b.toNat ≤ 0xDF
  · exact (underway_leadTwo htwo).char_or_gap rest
  by_cases hthree : 0xE0 ≤ b.toNat ∧ b.toNat ≤ 0xEF
  · exact (underway_leadThree hthree).char_or_gap rest
  by_cases hfour : 0xF0 ≤ b.toNat ∧ b.toNat ≤ 0xF4
  · exact (underway_leadFour hfour).char_or_gap rest
  -- No character starts with this byte: it is a gap of its own.
  have hread : ∀ tail, lettersFrom .between (b :: tail) = none :: lettersFrom .between tail := by
    intro tail
    have hstart : start b.toNat = ([none], .between) := by
      unfold start
      repeat rw [if_neg (by omega)]
    simp only [lettersFrom, step, hstart, List.singleton_append]
  have hstuck : ∀ next after tail, rest = next :: after → ¬ Begins ([b] ++ next :: tail) := by
    intro next after tail _
    exact not_begins_of_gap fun more => ⟨_, hread _⟩
  exact .inr (startsWithGap_of_stuck (List.cons_ne_nil b []) (.inr rfl) hstuck (hread rest))

/-! ### The lenient reader -/

theorem encodeChar_ne_nil (c : Char) : encodeChar c ≠ [] := by
  simp only [encodeChar]
  split_ifs <;> exact List.cons_ne_nil _ _

theorem decodeLossy_encodeChar_append (c : Char) (rest : List UInt8) :
    decodeLossy (encodeChar c ++ rest) = c :: decodeLossy rest := by
  rw [decodeLossy, letters, lettersFrom_encodeChar, List.map_cons]
  rfl

theorem StartsWithGap.unconvertible {bytes : List UInt8} (h : StartsWithGap bytes) :
    Unconvertible bytes := by
  obtain ⟨sub, rest, -, -, hletters⟩ := h
  rintro c ⟨after, rfl⟩
  rw [letters, lettersFrom_encodeChar] at hletters
  simp at hletters

/-- Where no character starts, the lenient reader replaces the maximal subpart. -/
theorem decodeLossy_of_isMaximalSubpart {sub rest : List UInt8} (hbad : Unconvertible (sub ++ rest))
    (hsub : IsMaximalSubpart sub (sub ++ rest)) :
    decodeLossy (sub ++ rest) = '\uFFFD' :: decodeLossy rest := by
  obtain ⟨b, more, hbytes⟩ : ∃ b more, sub ++ rest = b :: more :=
    List.exists_cons_of_ne_nil (by simp [hsub.ne_nil])
  have hgap : StartsWithGap (sub ++ rest) := by
    rw [hbytes]
    rcases char_or_gap b more with ⟨c, after, hchar⟩ | hgap
    · exact absurd ⟨after, by rw [hbytes, hchar]⟩ (hbad c)
    · exact hgap
  obtain ⟨sub', rest', hsplit, hsub', hletters⟩ := hgap
  obtain rfl : sub = sub' := hsub.unique hsub'
  obtain rfl : rest = rest' := List.append_cancel_left hsplit
  rw [decodeLossy, hletters, List.map_cons]
  rfl

/-- The lenient reader reads any bytes lossily. -/
theorem readsLossily_decodeLossy (bytes : List UInt8) : ReadsLossily bytes (decodeLossy bytes) := by
  -- By the number of bytes: a character and a gap each take at least one.
  induction hlength : bytes.length using Nat.strong_induction_on generalizing bytes with
  | _ n ih =>
  have hshorter : ∀ front rest : List UInt8, bytes = front ++ rest → front ≠ [] →
      rest.length < n := by
    rintro front rest rfl hne
    have hpos : 0 < front.length := List.length_pos_of_ne_nil hne
    rw [List.length_append] at hlength
    omega
  cases bytes with
  | nil => exact .nil
  | cons b more =>
    rcases char_or_gap b more with ⟨c, rest, hchar⟩ | hgap
    · have hrest := ih _ (hshorter _ rest hchar (encodeChar_ne_nil c)) rest rfl
      rw [hchar, decodeLossy_encodeChar_append]
      exact .char c hrest
    · have hbad := hgap.unconvertible
      obtain ⟨sub, rest, hsplit, hsub, -⟩ := hgap
      have hrest := ih _ (hshorter _ rest hsplit hsub.ne_nil) rest rfl
      rw [hsplit] at hbad hsub ⊢
      rw [decodeLossy_of_isMaximalSubpart hbad hsub]
      exact .gap hbad hsub hrest

example : decodeLossy [0x22, 0xE2, 0x82, 0x22, 0xFF] = ['"', '\uFFFD', '"', '\uFFFD'] := by decide

theorem ReadsLossily.eq_decodeLossy {bytes : List UInt8} {text : List Char}
    (h : ReadsLossily bytes text) : text = decodeLossy bytes := by
  induction h with
  | nil => rfl
  | char c htext ih => rw [decodeLossy_encodeChar_append, ih]
  | gap hbad hsub htext ih => rw [decodeLossy_of_isMaximalSubpart hbad hsub, ih]

/-- The lossy reading of some bytes is what the lenient reader makes of them, and nothing else. -/
theorem readsLossily_iff {bytes : List UInt8} {text : List Char} :
    ReadsLossily bytes text ↔ text = decodeLossy bytes := by
  constructor
  · exact ReadsLossily.eq_decodeLossy
  · rintro rfl
    exact readsLossily_decodeLossy bytes

/-- Any bytes are read as exactly one text. -/
theorem existsUnique_readsLossily (bytes : List UInt8) :
    ∃! text : String, ReadsLossily bytes text.toList := by
  refine ⟨String.ofList (decodeLossy bytes), ?_, fun text htext => ?_⟩
  · show ReadsLossily bytes (String.ofList (decodeLossy bytes)).toList
    rw [String.toList_ofList]
    exact readsLossily_decodeLossy bytes
  · rw [← htext.eq_decodeLossy, String.ofList_toList]

/-! ### The bytes of a text -/

/-- The bytes of a text are read as that text: nothing is replaced. -/
theorem decodeLossy_encode (cs : List Char) : decodeLossy (encode cs) = cs := by
  rw [decodeLossy, letters_encode, List.map_map]
  exact List.map_id cs

/-- A character has the bytes that the standard library gives it. -/
theorem encodeChar_eq_utf8EncodeChar (c : Char) : encodeChar c = String.utf8EncodeChar c := by
  have hvalid : c.toNat < 0xD800 ∨ 0xDFFF < c.toNat ∧ c.toNat < 0x110000 := c.valid
  have hval : c.val.toNat = c.toNat := rfl
  unfold encodeChar String.utf8EncodeChar
  simp only [hval]
  by_cases hone : c.toNat < 0x80
  · rw [if_pos hone, if_pos (by omega)]
  rw [if_neg hone, if_neg (by omega : ¬ c.toNat ≤ 127)]
  -- The library adds the marks of the bytes on the right, to what it has reduced once more.
  by_cases htwo : c.toNat < 0x800
  · rw [if_pos htwo, if_pos (by omega)]
    simp only [List.cons.injEq, and_true]
    refine ⟨congrArg _ ?_, congrArg _ ?_⟩ <;> omega
  rw [if_neg htwo, if_neg (by omega : ¬ c.toNat ≤ 2047)]
  by_cases hthree : c.toNat < 0x10000
  · rw [if_pos hthree, if_pos (by omega)]
    simp only [List.cons.injEq, and_true]
    refine ⟨congrArg _ ?_, congrArg _ ?_, congrArg _ ?_⟩ <;> omega
  · rw [if_neg hthree, if_neg (by omega)]
    simp only [List.cons.injEq, and_true]
    refine ⟨congrArg _ ?_, congrArg _ ?_, congrArg _ ?_, congrArg _ ?_⟩ <;> omega

theorem toUTF8_eq_encode (text : String) : text.toUTF8.data.toList = encode text.toList := by
  conv_lhs => rw [← String.ofList_toList (s := text)]
  rw [String.toUTF8, String.toByteArray_ofList, List.utf8Encode, List.data_toByteArray, encode,
    funext encodeChar_eq_utf8EncodeChar]

/-- The bytes of a text are read as that text and no other. -/
theorem readsLossily_toUTF8_iff {text written : String} :
    ReadsLossily written.toUTF8.data.toList text.toList ↔ text = written := by
  rw [toUTF8_eq_encode, readsLossily_iff, decodeLossy_encode, String.ext_iff]

end LedgerLookup.Text.Utf8
