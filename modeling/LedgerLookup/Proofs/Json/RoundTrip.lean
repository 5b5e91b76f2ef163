import LedgerLookup.Proofs.Json.Nesting
import LedgerLookup.Proofs.Json.Scalars
import LedgerLookup.Proofs.Json.Spelling

/-!
# Values that are written and read

The compact text of a value is read back as the sorted form of that value, if the value has no
doubles and is nested no more deeply than the reader goes.  The reader is followed along the text:
what is written for a value is read as one node, whatever mark comes after it.
-/

namespace LedgerLookup.Json

open Text.Utf8 (Letter)

namespace Value

mutual

/-- Whether a double stands anywhere in a value. -/
def hasDouble : Value → Bool
  | number (.double _) => true
  | array items => itemsHaveDouble items
  | object members => membersHaveDouble members
  | _ => false
termination_by structural v => v

/-- Whether a double stands in one of the items. -/
def itemsHaveDouble : List Value → Bool
  | [] => false
  | v :: rest => v.hasDouble || itemsHaveDouble rest
termination_by structural items => items

/-- Whether a double stands in the value of one of the members. -/
def membersHaveDouble : List (String × Value) → Bool
  | [] => false
  | m :: rest => memberHasDouble m || membersHaveDouble rest
termination_by structural members => members

/-- Whether a double stands in the value of a member. -/
def memberHasDouble : String × Value → Bool
  | (_, v) => v.hasDouble
termination_by structural m => m

end

theorem itemsHaveDouble_eq_false_iff : ∀ {items : List Value},
    itemsHaveDouble items = false ↔ ∀ v ∈ items, v.hasDouble = false
  | [] => by simp [itemsHaveDouble]
  | v :: rest => by
    rw [itemsHaveDouble, Bool.or_eq_false_iff, itemsHaveDouble_eq_false_iff, List.forall_mem_cons]

theorem membersHaveDouble_eq_false_iff : ∀ {members : Members},
    membersHaveDouble members = false ↔ ∀ m ∈ members, m.2.hasDouble = false
  | [] => by simp [membersHaveDouble]
  | (k, v) :: rest => by
    rw [membersHaveDouble, Bool.or_eq_false_iff, membersHaveDouble_eq_false_iff,
      List.forall_mem_cons]
    rfl

/-! ### Where a value starts and where it ends -/

/-- A character that a value can start with: no blank, and no mark of an array. -/
def Starts (c : Char) : Prop :=
  isJsonBlank c = false ∧ c ≠ ',' ∧ c ≠ ']'

instance : DecidablePred Starts := fun c =>
  inferInstanceAs (Decidable (isJsonBlank c = false ∧ c ≠ ',' ∧ c ≠ ']'))

theorem starts_of_isDigit {c : Char} (h : Text.isDigit c = true) : Starts c := by
  have hne : ∀ d, Text.isDigit d = false → c ≠ d := fun d => Text.ne_of_isDigit h
  refine ⟨?_, hne _ (by decide), hne _ (by decide)⟩
  simp [isJsonBlank, hne ' ' (by decide), hne '\n' (by decide), hne '\t' (by decide),
    hne '\r' (by decide)]

theorem exists_text_eq_cons {v : Value} (h : v.hasDouble = false) :
    ∃ c cs, v.text = c :: cs ∧ Starts c := by
  cases v with
  | null => exact ⟨'n', _, rfl, by decide⟩
  | bool b => cases b with
    | true => exact ⟨'t', _, rfl, by decide⟩
    | false => exact ⟨'f', _, rfl, by decide⟩
  | string s => exact ⟨'"', _, rfl, by decide⟩
  | array items => exact ⟨'[', _, rfl, by decide⟩
  | object members => exact ⟨'\x7b', _, rfl, by decide⟩
  | number n =>
    cases n with
    | double x => cases h
    | whole i =>
      rw [text, Number.text, toList_signedDecimal]
      split_ifs
      · exact ⟨'-', _, rfl, by decide⟩
      · cases hdigits : Text.digits i.val.natAbs with
        | nil => exact absurd hdigits Nat.toDigits_ne_nil
        | cons c cs =>
          have hc : c ∈ Text.digits i.val.natAbs := hdigits ▸ List.mem_cons_self
          exact ⟨c, cs, rfl, starts_of_isDigit (Text.isDigit_of_mem_digits hc)⟩

theorem endsValue_moreItemsText (items : List Value) (rest : List Letter) :
    EndsValue ((moreItemsText items).map some ++ some ']' :: rest) := by
  rintro l hl
  cases items with
  | nil => exact .inr (.inl (Option.some.inj hl).symm)
  | cons v items => exact .inl (Option.some.inj hl).symm

theorem endsValue_moreMembersText (members : Members) (rest : List Letter) :
    EndsValue ((moreMembersText members).map some ++ some '\x7d' :: rest) := by
  rintro l hl
  cases members with
  | nil => exact .inr (.inr (Option.some.inj hl).symm)
  | cons m members => exact .inl (Option.some.inj hl).symm

end Value

/-! ### What comes next -/

section Next

variable {c : Char} {text : List Letter}

theorem skipBlanks_cons (h : isJsonBlank c = false) :
    skipBlanks (some c :: text) = some c :: text := by
  rw [skipBlanks, if_neg (by simp [h])]

theorem nextItem_first (h : Value.Starts c) :
    nextItem true (some c :: text) = .part (some c :: text) := by
  obtain ⟨hblank, hcomma, hbracket⟩ := h
  rw [nextItem, skipBlanks_cons hblank]
  split <;> simp_all

theorem nextItem_more (h : Value.Starts c) :
    nextItem false (some ',' :: some c :: text) = .part (some c :: text) := by
  obtain ⟨hblank, hcomma, hbracket⟩ := h
  rw [nextItem, skipBlanks_cons (by decide)]
  simp only [Bool.false_eq_true, if_false]
  rw [skipBlanks_cons hblank]
  split <;> simp_all

theorem readNode_of_isDigit (h : Text.isDigit c = true) (fuel depth : Nat) :
    readNode (fuel + 1) depth (some c :: text) = numeralNode false (some c :: text) := by
  have hne : ∀ d, Text.isDigit d = false → c ≠ d := fun d => Text.ne_of_isDigit h
  have hword : c ≠ 'n' ∧ c ≠ 't' ∧ c ≠ 'f' := ⟨hne _ rfl, hne _ rfl, hne _ rfl⟩
  have hmark : c ≠ '-' ∧ c ≠ '"' ∧ c ≠ '[' ∧ c ≠ '\x7b' :=
    ⟨hne _ rfl, hne _ rfl, hne _ rfl, hne _ rfl⟩
  rw [readNode, skipBlanks_cons (Value.starts_of_isDigit h).1]
  split <;> simp_all

end Next

/-! ### Reading what is written -/

namespace Value

/-- What is written for the value is read as one node, and that node spells the value. -/
def ReadsBack (v : Value) : Prop :=
  -- a character pays for one step into a part and one along the parts
  ∀ fuel depth rest, 2 * v.text.length ≤ fuel → v.depth ≤ depth → EndsValue rest →
    ∃ node, readNode fuel depth (v.text.map some ++ rest) = (node, some rest) ∧
      node.Spells v

/-- A value that starts like one and is read back. -/
structure Rereadable (v : Value) : Prop where
  starts : ∃ c cs, v.text = c :: cs ∧ Starts c
  readsBack : v.ReadsBack

theorem Rereadable.length_pos {v : Value} (h : v.Rereadable) : 0 < v.text.length := by
  obtain ⟨c, cs, htext, -⟩ := h.starts
  rw [htext, List.length_cons]
  omega

/-! #### Arrays -/

section Arrays

variable {depth : Nat} {rest : List Letter}

/-- An item is read back where one comes next, and so are those that follow it. -/
theorem readItems_of_part {v : Value} {items : List Value} {fuel : Nat} {first : Bool}
    {text following : List Letter} (hv : v.Rereadable) (hdepth : v.depth ≤ depth)
    (hfuel : 2 * v.text.length ≤ fuel) (hends : EndsValue following)
    (hnext : nextItem first text = .part (v.text.map some ++ following))
    (hmore : ∃ nodes, readItems fuel depth false following = (nodes, some rest) ∧
      nodes.Spell items) :
    ∃ nodes, readItems (fuel + 1) depth first text = (nodes, some rest) ∧
      nodes.Spell (v :: items) := by
  obtain ⟨node, hnode, hspells⟩ := hv.readsBack fuel depth following hfuel hdepth hends
  obtain ⟨nodes, hnodes, hspell⟩ := hmore
  refine ⟨.item node nodes, ?_, .item hspells hspell⟩
  simp only [readItems, hnext, hnode, hnodes]

/-- The items after the first are read back up to the closing bracket. -/
theorem readItems_more : ∀ {items : List Value} {fuel : Nat},
    (∀ v ∈ items, v.Rereadable) → (∀ v ∈ items, v.depth ≤ depth) →
    2 * (moreItemsText items).length + 1 ≤ fuel →
    ∃ nodes, readItems fuel depth false ((moreItemsText items).map some ++ some ']' :: rest) =
      (nodes, some rest) ∧ nodes.Spell items
  | _, 0, _, _, hfuel => by omega
  | [], fuel + 1, _, _, _ => ⟨.closed, rfl, .closed⟩
  | v :: items, fuel + 1, hback, hdepth, hfuel => by
    obtain ⟨hv, hitems⟩ := List.forall_mem_cons.mp hback
    obtain ⟨hvdepth, hitemsdepth⟩ := List.forall_mem_cons.mp hdepth
    obtain ⟨c, cs, htext, hc⟩ := hv.starts
    simp only [moreItemsText, List.length_cons, List.length_append] at hfuel
    refine readItems_of_part hv hvdepth (by omega) (endsValue_moreItemsText items rest) ?_
      (readItems_more hitems hitemsdepth (by omega))
    simp only [moreItemsText, htext, List.cons_append, List.map_cons, List.map_append,
      List.append_assoc, nextItem_more hc]

/-- The items of an array are read back. -/
theorem readItems_text (rest : List Letter) (fuel : Nat) {items : List Value}
    (hback : ∀ v ∈ items, v.Rereadable) (hdepth : ∀ v ∈ items, v.depth ≤ depth)
    (hfuel : 2 * (itemsText items).length + 1 ≤ fuel) :
    ∃ nodes, readItems fuel depth true ((itemsText items).map some ++ some ']' :: rest) =
      (nodes, some rest) ∧ nodes.Spell items := by
  obtain _ | fuel := fuel
  · omega
  cases items with
  | nil => exact ⟨.closed, rfl, .closed⟩
  | cons v items =>
    obtain ⟨hv, hitems⟩ := List.forall_mem_cons.mp hback
    obtain ⟨hvdepth, hitemsdepth⟩ := List.forall_mem_cons.mp hdepth
    obtain ⟨c, cs, htext, hc⟩ := hv.starts
    have hpos := hv.length_pos
    simp only [itemsText, List.length_append] at hfuel
    refine readItems_of_part hv hvdepth (by omega) (endsValue_moreItemsText items rest) ?_
      (readItems_more hitems hitemsdepth (by omega))
    simp only [itemsText, htext, List.cons_append, List.map_cons, List.map_append,
      List.append_assoc, nextItem_first hc]

end Arrays

/-! #### Objects -/

section Objects

variable {depth : Nat} {rest : List Letter}

/-- A member is read back where one comes next, and so are those that follow it. -/
theorem readMembers_of_part {k : String} {v : Value} {members : Members} {fuel : Nat}
    {first : Bool} {text following : List Letter} (hv : v.Rereadable) (hdepth : v.depth ≤ depth)
    (hfuel : 2 * v.text.length ≤ fuel) (hends : EndsValue following)
    (hnext : nextMember first text = .part ((k.toList.flatMap escapeChar ++ ['"']).map some ++
      some ':' :: (v.text.map some ++ following)))
    (hmore : ∃ nodes, readMembers fuel depth false following = (nodes, some rest) ∧
      nodes.Spell members) :
    ∃ nodes, readMembers (fuel + 1) depth first text = (nodes, some rest) ∧
      nodes.Spell ((k, v) :: members) := by
  obtain ⟨units, hlex, hkey⟩ := lexLiteral_text k (some ':' :: (v.text.map some ++ following))
  obtain ⟨node, hnode, hspells⟩ := hv.readsBack fuel depth following hfuel hdepth hends
  obtain ⟨nodes, hnodes, hspell⟩ := hmore
  have hcolon : lexColon (some ':' :: (v.text.map some ++ following)) =
      .ok (v.text.map some ++ following) := rfl
  refine ⟨.member units node nodes, ?_, .member hkey hspells hspell⟩
  simp only [readMembers, hnext, hlex, hcolon, hnode, hnodes]

/-- The members after the first are read back up to the closing brace. -/
theorem readMembers_more : ∀ {members : Members} {fuel : Nat},
    (∀ m ∈ members, m.2.Rereadable) → (∀ m ∈ members, m.2.depth ≤ depth) →
    2 * (moreMembersText members).length + 1 ≤ fuel →
    ∃ nodes, readMembers fuel depth false
        ((moreMembersText members).map some ++ some '\x7d' :: rest) = (nodes, some rest) ∧
      nodes.Spell members
  | _, 0, _, _, hfuel => by omega
  | [], fuel + 1, _, _, _ => ⟨.closed, rfl, .closed⟩
  | (k, v) :: members, fuel + 1, hback, hdepth, hfuel => by
    obtain ⟨hv, hmembers⟩ := List.forall_mem_cons.mp hback
    obtain ⟨hvdepth, hmembersdepth⟩ := List.forall_mem_cons.mp hdepth
    simp only [moreMembersText, memberText, stringText, List.length_cons,
      List.length_append] at hfuel
    refine readMembers_of_part (k := k) hv hvdepth (by omega)
      (endsValue_moreMembersText members rest) ?_
      (readMembers_more hmembers hmembersdepth (by omega))
    simp only [moreMembersText, memberText, stringText, List.cons_append, List.map_cons,
      List.map_append, List.append_assoc]
    rfl

/-- The members of an object are read back. -/
theorem readMembers_text (rest : List Letter) (fuel : Nat) {members : Members}
    (hback : ∀ m ∈ members, m.2.Rereadable) (hdepth : ∀ m ∈ members, m.2.depth ≤ depth)
    (hfuel : 2 * (membersText members).length + 1 ≤ fuel) :
    ∃ nodes, readMembers fuel depth true
        ((membersText members).map some ++ some '\x7d' :: rest) = (nodes, some rest) ∧
      nodes.Spell members := by
  obtain _ | fuel := fuel
  · omega
  cases members with
  | nil => exact ⟨.closed, rfl, .closed⟩
  | cons m members =>
    obtain ⟨k, v⟩ := m
    obtain ⟨hv, hmembers⟩ := List.forall_mem_cons.mp hback
    obtain ⟨hvdepth, hmembersdepth⟩ := List.forall_mem_cons.mp hdepth
    simp only [membersText, memberText, stringText, List.length_cons, List.length_append] at hfuel
    refine readMembers_of_part (k := k) hv hvdepth (by omega)
      (endsValue_moreMembersText members rest) ?_
      (readMembers_more hmembers hmembersdepth (by omega))
    simp only [membersText, memberText, stringText, List.cons_append, List.map_cons,
      List.map_append, List.append_assoc]
    rfl

end Objects

/-! #### Values -/

theorem readsBack_whole (i : Word .wide) : (number (.whole i)).ReadsBack := by
  intro fuel depth rest hfuel _ hrest
  obtain ⟨c, cs, htext, -⟩ := exists_text_eq_cons (v := number (.whole i)) rfl
  obtain _ | fuel := fuel
  · rw [htext, List.length_cons] at hfuel
    omega
  have hnode := numeralNode_wholeNumeral i hrest
  refine ⟨.numeral (wholeNumeral i), ?_, .number (congrArg _ (number_wholeNumeral i))⟩
  rw [text, Number.text, toList_signedDecimal]
  split_ifs with hnegative
  · rw [decide_eq_true hnegative] at hnode
    exact hnode
  · rw [decide_eq_false hnegative] at hnode
    rw [text, Number.text, toList_signedDecimal, if_neg hnegative] at htext
    have hc : c ∈ Text.digits i.val.natAbs := htext ▸ List.mem_cons_self
    rw [← hnode, htext]
    exact readNode_of_isDigit (Text.isDigit_of_mem_digits hc) fuel depth

theorem readsBack_string (s : String) : (string s).ReadsBack := by
  intro fuel depth rest hfuel _ _
  obtain ⟨units, hlex, hunits⟩ := lexLiteral_text s rest
  obtain _ | fuel := fuel
  · simp [text, stringText] at hfuel
  have hnode : literalNode ((s.toList.flatMap escapeChar ++ ['"']).map some ++ rest) =
      (.literal units, some rest) := by rw [literalNode, hlex]
  exact ⟨.literal units, hnode, .string hunits⟩

theorem readsBack_array {items : List Value} (h : ∀ v ∈ items, v.Rereadable) :
    (array items).ReadsBack := by
  intro fuel depth rest hfuel hdepth _
  rw [Value.depth] at hdepth
  simp only [text, List.cons_append, List.length_cons, List.length_append] at hfuel
  obtain _ | fuel := fuel
  · omega
  have hitems : ∀ v ∈ items, v.depth ≤ depth - 1 := itemsDepth_le_iff.mp (by omega)
  obtain ⟨nodes, hnodes, hspell⟩ :=
    readItems_text rest fuel h hitems (by omega)
  refine ⟨.array nodes, ?_, .array hspell⟩
  have hread : readNode (fuel + 1) depth
      (some '[' :: ((itemsText items).map some ++ some ']' :: rest)) =
        (.array (if depth = 0 then .tooDeep nodes else nodes), some rest) := by
    simp only [readNode, skipBlanks_cons (c := '[') (by decide), hnodes]
  rw [if_neg (by omega)] at hread
  simpa [text] using hread

theorem readsBack_object {members : Members}
    (h : ∀ m ∈ members, m.2.Rereadable) : (object members).ReadsBack := by
  intro fuel depth rest hfuel hdepth _
  rw [Value.depth] at hdepth
  simp only [text, List.cons_append, List.length_cons, List.length_append] at hfuel
  obtain _ | fuel := fuel
  · omega
  have hmembers : ∀ m ∈ members, m.2.depth ≤ depth - 1 := membersDepth_le_iff.mp (by omega)
  obtain ⟨nodes, hnodes, hspell⟩ :=
    readMembers_text rest fuel h hmembers (by omega)
  refine ⟨.object nodes, ?_, .object hspell⟩
  have hread : readNode (fuel + 1) depth
      (some '\x7b' :: ((membersText members).map some ++ some '\x7d' :: rest)) =
        (.object (if depth = 0 then .tooDeep nodes else nodes), some rest) := by
    simp only [readNode, skipBlanks_cons (c := '\x7b') (by decide), hnodes]
  rw [if_neg (by omega)] at hread
  simpa [text] using hread

/-- A value without doubles is read back. -/
theorem rereadable {v : Value} (hdouble : v.hasDouble = false) : v.Rereadable := by
  refine ⟨exists_text_eq_cons hdouble, ?_⟩
  induction v using induction with
  | null =>
    rintro (_ | fuel) depth rest hfuel - -
    · simp [text] at hfuel
    · exact ⟨.null, rfl, .null⟩
  | bool b =>
    rintro (_ | fuel) depth rest hfuel - -
    · cases b <;> simp [text] at hfuel
    · exact ⟨.bool b, by cases b <;> rfl, .bool b⟩
  | number n =>
    cases n with
    | whole i => exact readsBack_whole i
    | double x => cases hdouble
  | string s => exact readsBack_string s
  | array items ih =>
    have hitems := itemsHaveDouble_eq_false_iff.mp hdouble
    exact readsBack_array fun v hv => ⟨exists_text_eq_cons (hitems v hv), ih v hv (hitems v hv)⟩
  | object members ih =>
    have hmembers := membersHaveDouble_eq_false_iff.mp hdouble
    exact readsBack_object fun m hm =>
      ⟨exists_text_eq_cons (hmembers m hm), ih m hm (hmembers m hm)⟩

/-- The text of a value is read as a tree that spells the value, and nothing follows. -/
theorem exists_spells_render {v : Value} (hdouble : v.hasDouble = false)
    (hdepth : v.depth ≤ maxDepth) :
    ∃ node, Document.ofString v.render = ⟨node, false⟩ ∧ node.Spells v := by
  obtain ⟨node, hnode, hspells⟩ := (rereadable hdouble).readsBack (2 * v.text.length + 2) maxDepth
    [] (by omega) hdepth endsValue_nil
  rw [List.append_nil] at hnode
  refine ⟨node, ?_, hspells⟩
  rw [Document.ofString, render, String.toList_ofList, Document.ofLetters, List.length_map, hnode]
  rfl

/-- **A value is read back from its text**, up to the order of members: the value of the text is
the sorted form of the value that was written. -/
theorem parse_render {v : Value} (hdouble : v.hasDouble = false) (hdepth : v.depth ≤ maxDepth) :
    parse v.render = .ok v.sorted := by
  obtain ⟨node, hdocument, hspells⟩ := exists_spells_render hdouble hdepth
  rw [parse, hdocument, Document.value, hspells.value_eq]
  rfl

end Value

end LedgerLookup.Json
