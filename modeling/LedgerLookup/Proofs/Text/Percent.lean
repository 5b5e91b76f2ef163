import LedgerLookup.Proofs.Text.Utf8
import LedgerLookup.Text.Percent

/-!
# Components read back

What a text looks like as a component of a URL, and that it is read back from there: two texts never
become the same component.
-/

namespace LedgerLookup.Text.Percent

/-! ### Bytes -/

theorem hexValue?_hexDigit {n : Nat} (h : n < 16) : hexValue? (hexDigit n) = some n := by
  have hall : ∀ m : Fin 16, hexValue? (hexDigit m.val) = some m.val := by decide
  exact hall ⟨n, h⟩

/-- An escape is read as its byte. -/
theorem bytes_escape (b : UInt8) (rest : List Char) :
    bytes (escape b ++ rest) = b :: bytes rest := by
  have hb : b.toNat < 256 := UInt8.toNat_lt b
  have hhi := hexValue?_hexDigit (n := b.toNat / 16) (by omega)
  have hlo := hexValue?_hexDigit (n := b.toNat % 16) (by omega)
  have hbyte : UInt8.ofNat (b.toNat / 16 * 16 + b.toNat % 16) = b := by
    rw [show b.toNat / 16 * 16 + b.toNat % 16 = b.toNat by omega, UInt8.ofNat_toNat]
  simp only [escape, List.cons_append, List.nil_append, bytes, if_true, hhi, hlo, hbyte]

/-- A character other than the percent sign stands for its own bytes. -/
theorem bytes_cons_of_ne {c : Char} (h : c ≠ '%') (rest : List Char) :
    bytes (c :: rest) = Utf8.encodeChar c ++ bytes rest := by
  match rest with
  | [] | [_] | _ :: _ :: _ => simp [bytes, h]

theorem isUnreserved_percent : isUnreserved '%' = false := by decide

/-- A byte in a component is read as itself. -/
theorem bytes_encodeByte (b : UInt8) (rest : List Char) :
    bytes (encodeByte b ++ rest) = b :: bytes rest := by
  unfold encodeByte
  by_cases h : (b.toNat < 0x80 && isUnreserved (Char.ofNat b.toNat)) = true
  · obtain ⟨hlt, hun⟩ := by simpa using h
    have hne : Char.ofNat b.toNat ≠ '%' := fun hc => by
      rw [hc, isUnreserved_percent] at hun
      cases hun
    have hchar : (Char.ofNat b.toNat).toNat = b.toNat := by
      rw [Char.ofNat, dif_pos (Or.inl (by omega))]
      rfl
    rw [if_pos h, List.singleton_append, bytes_cons_of_ne hne]
    simp [Utf8.encodeChar, hchar, hlt]
  · rw [if_neg h, bytes_escape]

theorem bytes_encode (cs : List Char) : bytes (encode cs) = Utf8.encode cs := by
  unfold encode
  induction Utf8.encode cs with
  | nil => rfl
  | cons b bs ih => rw [List.flatMap_cons, bytes_encodeByte, ih]

/-! ### Texts -/

/-- A component is read as the text that it was made from. -/
theorem decode?_encode (cs : List Char) : decode? (encode cs) = some cs := by
  rw [decode?, bytes_encode, Utf8.decode?_encode]

theorem encode_injective : Function.Injective encode := fun cs ds h => by
  simpa [decode?_encode] using congrArg decode? h

theorem encode_ne_nil {cs : List Char} (h : cs ≠ []) : encode cs ≠ [] := fun hnil =>
  h (encode_injective (hnil.trans rfl))

theorem lt_of_isUnreserved {c : Char} (h : isUnreserved c = true) : c.toNat < 128 := by
  have hle : ∀ d : Char, c ≤ d → c.toNat ≤ d.toNat := fun _ hd => hd
  simp only [isUnreserved, Bool.or_eq_true, Bool.and_eq_true, decide_eq_true_eq, beq_iff_eq] at h
  rcases h with ((((((⟨-, h⟩ | ⟨-, h⟩) | ⟨-, h⟩) | rfl) | rfl) | rfl) | rfl)
  · exact Nat.lt_of_le_of_lt (hle 'Z' h) (by decide)
  · exact Nat.lt_of_le_of_lt (hle 'z' h) (by decide)
  · exact Nat.lt_of_le_of_lt (hle '9' h) (by decide)
  all_goals decide

/-- A component consists of unreserved characters and percent signs. -/
theorem isUnreserved_or_percent_of_mem_encode {cs : List Char} {c : Char} (h : c ∈ encode cs) :
    isUnreserved c = true ∨ c = '%' := by
  obtain ⟨b, -, hb⟩ := List.mem_flatMap.mp h
  have hdigit : ∀ n : Fin 16, isUnreserved (hexDigit n.val) = true := by decide
  have hlt : b.toNat < 256 := UInt8.toNat_lt b
  simp only [encodeByte] at hb
  split_ifs at hb with hun
  · obtain ⟨-, hun⟩ := by simpa using hun
    rw [List.mem_singleton.mp hb]
    exact Or.inl hun
  · simp only [escape, List.mem_cons, List.not_mem_nil, or_false] at hb
    rcases hb with rfl | rfl | rfl
    · exact Or.inr rfl
    · exact Or.inl (hdigit ⟨b.toNat / 16, by omega⟩)
    · exact Or.inl (hdigit ⟨b.toNat % 16, by omega⟩)

theorem not_mem_encode {mark : Char} (hreserved : isUnreserved mark = false) (hne : mark ≠ '%')
    (cs : List Char) : mark ∉ encode cs := by
  intro h
  rcases isUnreserved_or_percent_of_mem_encode h with hun | heq
  · rw [hreserved] at hun
    cases hun
  · exact hne heq

theorem count_encode {mark : Char} (hreserved : isUnreserved mark = false) (hne : mark ≠ '%')
    (cs : List Char) : (encode cs).count mark = 0 :=
  List.count_eq_zero_of_not_mem (not_mem_encode hreserved hne cs)

/-! ### Components -/

/-- The digits that escapes are written with. -/
def escapeDigits : List Char := "0123456789ABCDEF".toList

/-- The texts that consist of unreserved characters and escapes. -/
inductive IsComponent : List Char → Prop where
  | nil : IsComponent []
  | unreserved {c : Char} {rest : List Char} (hc : isUnreserved c = true)
    (hrest : IsComponent rest) : IsComponent (c :: rest)
  | escape {high low : Char} {rest : List Char} (hhigh : high ∈ escapeDigits)
    (hlow : low ∈ escapeDigits) (hrest : IsComponent rest) :
    IsComponent ('%' :: high :: low :: rest)

theorem hexDigit_mem_escapeDigits {n : Nat} (h : n < 16) : hexDigit n ∈ escapeDigits := by
  have hall : ∀ m : Fin 16, hexDigit m.val ∈ escapeDigits := by decide
  exact hall ⟨n, h⟩

theorem IsComponent.encodeByte_append (b : UInt8) {rest : List Char} (h : IsComponent rest) :
    IsComponent (encodeByte b ++ rest) := by
  have hlt : b.toNat < 256 := UInt8.toNat_lt b
  simp only [encodeByte]
  split_ifs with hun
  · obtain ⟨-, hun⟩ := by simpa using hun
    exact .unreserved hun h
  · exact .escape (hexDigit_mem_escapeDigits (by omega)) (hexDigit_mem_escapeDigits (by omega)) h

theorem isComponent_encode (cs : List Char) : IsComponent (encode cs) := by
  unfold encode
  induction Utf8.encode cs with
  | nil => exact .nil
  | cons b bs ih => exact ih.encodeByte_append b

end LedgerLookup.Text.Percent
