import LedgerLookup.Json.Printer
import LedgerLookup.Json.Reader
import LedgerLookup.Proofs.Results
import LedgerLookup.Proofs.Text.Digits

/-!
# Scalars that are written and read

A string is read back from its literal, whatever characters it has, and a whole number from its
digits.
-/

namespace LedgerLookup.Json

open Text.Utf8 (Letter)

/-! ### Strings -/

section Strings

/-- A unit of a literal that stands for a character by itself: a control may be written by its
code. -/
def LiteralUnit.StandsFor (u : LiteralUnit) (c : Char) : Prop :=
  u = .char c ∨ u = .codeUnit c.toNat ∧ c.toNat < 0x20

theorem joinUnits_cons {u : LiteralUnit} {c : Char} (h : u.StandsFor c)
    (units : List LiteralUnit) :
    joinUnits .closed (u :: units) = (joinUnits .closed units).map (some c :: ·) := by
  rcases h with rfl | ⟨rfl, hcontrol⟩
  · rw [joinUnits]
  · -- a control is neither half of a surrogate pair
    rw [joinUnits.eq_def]
    dsimp only
    rw [if_neg (by omega), if_neg (by omega), Char.ofNat_toNat]

theorem hexValue?_digitChar : ∀ d < 16, Text.Percent.hexValue? (Nat.digitChar d) = some d := by
  decide

/-- What is written for a character is read as one unit. -/
theorem lexString_escapeChar (c : Char) (text : List Letter) :
    ∃ u : LiteralUnit, u.StandsFor c ∧ lexString ((escapeChar c).map some ++ text) =
      (u :: (lexString text).1, (lexString text).2.1, (lexString text).2.2) := by
  unfold escapeChar
  split_ifs with hquote hbackslash hbackspace hfeed hnewline hreturn htab hcontrol
  · exact ⟨.char c, .inl rfl, by subst hquote; rfl⟩
  · exact ⟨.char c, .inl rfl, by subst hbackslash; rfl⟩
  · exact ⟨.char c, .inl rfl, by subst hbackspace; rfl⟩
  · exact ⟨.char c, .inl rfl, by subst hfeed; rfl⟩
  · exact ⟨.char c, .inl rfl, by subst hnewline; rfl⟩
  · exact ⟨.char c, .inl rfl, by subst hreturn; rfl⟩
  · exact ⟨.char c, .inl rfl, by subst htab; rfl⟩
  · refine ⟨.codeUnit c.toNat, .inr ⟨rfl, hcontrol⟩, ?_⟩
    have hhigh := hexValue?_digitChar (c.toNat / 16) (by omega)
    have hlow := hexValue?_digitChar (c.toNat % 16) (by omega)
    have hzero : Text.Percent.hexValue? '0' = some 0 := by decide
    simp only [List.map_cons, List.map_nil, List.cons_append, List.nil_append, lexString,
      hexLetter?, hhigh, hlow, hzero]
    congr 3
    omega
  · refine ⟨.char c, .inl rfl, ?_⟩
    simp only [List.map_cons, List.map_nil, List.cons_append, List.nil_append]
    rw [lexString.eq_def]
    split <;> simp_all

/-- The text of a string is read to its closing quote. -/
theorem lexString_flatMap (rest : List Letter) : ∀ cs : List Char, ∃ units,
    lexString ((cs.flatMap escapeChar).map some ++ some '"' :: rest) = (units, .closed, rest) ∧
      joinUnits .closed units = .ok (cs.map some)
  | [] => ⟨[], rfl, rfl⟩
  | c :: cs => by
    obtain ⟨units, hlex, hjoin⟩ := lexString_flatMap rest cs
    obtain ⟨u, hu, hc⟩ :=
      lexString_escapeChar c ((cs.flatMap escapeChar).map some ++ some '"' :: rest)
    refine ⟨u :: units, ?_, ?_⟩
    · rw [List.flatMap_cons, List.map_append, List.append_assoc, hc, hlex]
    · rw [joinUnits_cons hu, hjoin]
      rfl

theorem mapM_id_map_some (cs : List Char) : (cs.map some).mapM id = some cs := by
  induction cs with
  | nil => rfl
  | cons c cs ih => simp [List.mapM_cons, ih]

/-- A string is read back from what stands behind its opening quote. -/
theorem lexLiteral_text (s : String) (rest : List Letter) : ∃ units,
    lexLiteral ((s.toList.flatMap escapeChar ++ ['"']).map some ++ rest) = .ok (units, rest) ∧
      Node.readLiteral units = .ok s := by
  obtain ⟨units, hlex, hjoin⟩ := lexString_flatMap rest s.toList
  have htext : (s.toList.flatMap escapeChar ++ ['"']).map some ++ rest =
      (s.toList.flatMap escapeChar).map some ++ some '"' :: rest := by simp
  refine ⟨units, ?_, ?_⟩
  · rw [htext, lexLiteral, hlex]
    rfl
  · rw [Node.readLiteral, readUnits, hjoin, ok_bind, mapM_id_map_some]
    exact congrArg Except.ok String.ofList_toList

end Strings

/-! ### Whole numbers -/

section Numbers

open Text (digits isDigit)

/-- What follows a value in a compact text: nothing, or a mark that no numeral goes on with. -/
def EndsValue (rest : List Letter) : Prop :=
  ∀ l ∈ rest.head?, l = some ',' ∨ l = some ']' ∨ l = some '\x7d'

theorem endsValue_nil : EndsValue [] := fun _ h => by cases h

theorem spanDigits_append {ds : List Char} (hds : ∀ c ∈ ds, isDigit c = true)
    {rest : List Letter} (hrest : EndsValue rest) :
    spanDigits (ds.map some ++ rest) = (ds, rest) := by
  induction ds with
  | nil =>
    cases rest with
    | nil => rfl
    | cons l rest => rcases hrest l rfl with rfl | rfl | rfl <;> rfl
  | cons c ds ih =>
    obtain ⟨hc, hds⟩ := List.forall_mem_cons.mp hds
    rw [List.map_cons, List.cons_append, spanDigits, if_pos hc, ih hds]

theorem lexWhole_digits (n : Nat) {rest : List Letter} (hrest : EndsValue rest) :
    lexWhole ((digits n).map some ++ rest) = .ok (digits n, rest) := by
  have hne : digits n ≠ [] := Nat.toDigits_ne_nil
  rw [lexWhole, spanDigits_append (fun _ hc => Text.isDigit_of_mem_digits hc) hrest]
  split
  · next heq => exact absurd (Prod.mk.inj heq).1 hne
  · next c cs _ heq =>
    cases Text.eq_nil_of_digits_eq_zero_cons (Prod.mk.inj heq).1
  · next heq =>
    obtain ⟨rfl, rfl⟩ := Prod.mk.inj heq
    rfl

/-- Digits without point and exponent are a numeral up to the next mark. -/
theorem lexNumeral_digits (negative : Bool) (n : Nat) {rest : List Letter}
    (hrest : EndsValue rest) : lexNumeral negative ((digits n).map some ++ rest) =
      .ok (⟨negative, digits n, [], none⟩, rest) := by
  rw [lexNumeral, lexWhole_digits n hrest, ok_bind]
  cases rest with
  | nil => rfl
  | cons l rest => rcases hrest l rfl with rfl | rfl | rfl <;> rfl

/-- The numeral that is written for a whole number. -/
def wholeNumeral (i : Word .wide) : Numeral :=
  ⟨i.val < 0, digits i.val.natAbs, [], none⟩

theorem number_wholeNumeral (i : Word .wide) : (wholeNumeral i).number = .ok (.whole i) := by
  have hinteger : (wholeNumeral i).integer? = some i := by
    simp only [wholeNumeral, Numeral.integer?, List.isEmpty_nil, Bool.not_true,
      Option.isSome_none, Bool.or_self, Bool.false_eq_true, if_false, decide_eq_true_eq,
      Text.digitsValue_digits]
    split_ifs with hnegative hzero
    · omega
    · rw [show -(i.val.natAbs : Int) = i.val by omega, Word.ofInt?_val]
    · rw [show (i.val.natAbs : Int) = i.val by omega, Word.ofInt?_val]
  rw [Numeral.number, hinteger]

theorem numeralNode_wholeNumeral (i : Word .wide) {rest : List Letter} (hrest : EndsValue rest) :
    numeralNode (i.val < 0) ((digits i.val.natAbs).map some ++ rest) =
      (.numeral (wholeNumeral i), some rest) := by
  rw [numeralNode, lexNumeral_digits _ _ hrest]
  rfl

theorem toList_signedDecimal (i : Int) : (Text.signedDecimal i).toList =
    if i < 0 then '-' :: digits i.natAbs else digits i.natAbs := by
  unfold Text.signedDecimal
  split_ifs <;> simp [Text.decimal]

end Numbers

end LedgerLookup.Json
