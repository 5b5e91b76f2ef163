import LedgerLookup.Proofs.Json.Ordered

/-!
# Nesting

How deeply arrays and objects are nested in a value.  A text gives no value that is nested more
deeply than its reader goes.
-/

namespace LedgerLookup.Json

namespace Value

mutual

/-- How many arrays and objects are nested in a value at most. -/
def depth : Value → Nat
  | array items => itemsDepth items + 1
  | object members => membersDepth members + 1
  | _ => 0
termination_by structural v => v

/-- The depth of the deepest item. -/
def itemsDepth : List Value → Nat
  | [] => 0
  | v :: rest => max v.depth (itemsDepth rest)
termination_by structural items => items

/-- The depth of the deepest value of a member. -/
def membersDepth : List (String × Value) → Nat
  | [] => 0
  | m :: rest => max (memberDepth m) (membersDepth rest)
termination_by structural members => members

/-- The depth of the value of a member. -/
def memberDepth : String × Value → Nat
  | (_, v) => v.depth
termination_by structural m => m

end

theorem itemsDepth_le_iff {n : Nat} : ∀ {items : List Value},
    itemsDepth items ≤ n ↔ ∀ v ∈ items, v.depth ≤ n
  | [] => by simp [itemsDepth]
  | v :: rest => by rw [itemsDepth, Nat.max_le, itemsDepth_le_iff, List.forall_mem_cons]

theorem membersDepth_le_iff {n : Nat} : ∀ {members : Members},
    membersDepth members ≤ n ↔ ∀ m ∈ members, m.2.depth ≤ n
  | [] => by simp [membersDepth]
  | (k, v) :: rest => by
    rw [membersDepth, Nat.max_le, membersDepth_le_iff, List.forall_mem_cons]
    rfl

end Value

/-! ### Reading -/

open Text.Utf8 (Letter)

section Reading

/-- A node whose value, if it has one, is nested at most so deeply. -/
def Node.Within (depth : Nat) (n : Node) : Prop :=
  ∀ v, n.value = .ok v → v.depth ≤ depth

/-- Items whose values are nested at most so deeply. -/
def Items.Within (depth : Nat) (items : Items) : Prop :=
  ∀ vs, Node.itemValues items = .ok vs → ∀ v ∈ vs, v.depth ≤ depth

/-- Members whose values are nested at most so deeply. -/
def MemberNodes.Within (depth : Nat) (members : MemberNodes) : Prop :=
  ∀ ms, Node.writtenMembers members = .ok ms → ∀ m ∈ ms, m.2.depth ≤ depth

variable {depth : Nat}

theorem Node.within_flawed (f : Flaw) : (Node.flawed f).Within depth :=
  fun _ h => by cases h

theorem Node.within_numeral (n : Numeral) : (Node.numeral n).Within depth := fun _ h => by
  obtain ⟨n, -, rfl⟩ := map_eq_ok_iff.mp h
  exact Nat.zero_le _

theorem Node.within_literal (units : List LiteralUnit) : (Node.literal units).Within depth :=
  fun _ h => by
    obtain ⟨s, -, rfl⟩ := map_eq_ok_iff.mp h
    exact Nat.zero_le _

/-- A word is read as its node or as a flaw. -/
theorem within_lexWord {node : Node} (h : node.Within depth) :
    ∀ (cs : List Char) (text : List Letter), (lexWord node cs text).1.Within depth
  | [], _ => h
  | _ :: _, [] => Node.within_flawed _
  | c :: cs, l :: rest => by
    unfold lexWord
    split_ifs
    · exact within_lexWord h cs rest
    · exact Node.within_flawed _

theorem within_numeralNode (negative : Bool) (text : List Letter) :
    (numeralNode negative text).1.Within depth := by
  unfold numeralNode
  split
  · exact Node.within_numeral _
  · exact Node.within_flawed _

theorem within_literalNode (text : List Letter) : (literalNode text).1.Within depth := by
  unfold literalNode
  split
  · exact Node.within_literal _
  · exact Node.within_flawed _

theorem Items.within_flawed (f : Flaw) : (Items.flawed f).Within depth :=
  fun _ h => by cases h

theorem Items.within_item {node : Node} {rest : Items} (hnode : node.Within depth)
    (hrest : rest.Within depth) : (Items.item node rest).Within depth := by
  intro vs h
  simp only [Node.itemValues, bind_eq_ok_iff] at h
  obtain ⟨v, hv, vs', hvs, h⟩ := h
  cases h
  exact List.forall_mem_cons.mpr ⟨hnode v hv, hrest vs' hvs⟩

theorem MemberNodes.within_flawed (f : Flaw) : (MemberNodes.flawed f).Within depth :=
  fun _ h => by cases h

theorem MemberNodes.within_member {key : List LiteralUnit} {node : Node} {rest : MemberNodes}
    (hnode : node.Within depth) (hrest : rest.Within depth) :
    (MemberNodes.member key node rest).Within depth := by
  intro ms h
  simp only [Node.writtenMembers, bind_eq_ok_iff] at h
  obtain ⟨k, -, v, hv, ms', hms, h⟩ := h
  cases h
  exact List.forall_mem_cons.mpr ⟨hnode v hv, hrest ms' hms⟩

/-- Where no depth is left an array has no value. -/
theorem Node.within_array {items : Items} (h : items.Within (depth - 1)) :
    (Node.array (if depth = 0 then .tooDeep items else items)).Within depth := by
  intro v hv
  obtain ⟨vs, hvs, rfl⟩ := map_eq_ok_iff.mp hv
  split_ifs at hvs with hdepth
  · cases hvs
  · have hle := Value.itemsDepth_le_iff.mpr (h vs hvs)
    rw [Value.depth]
    omega

/-- Where no depth is left an object has no value. -/
theorem Node.within_object {members : MemberNodes} (h : members.Within (depth - 1)) :
    (Node.object (if depth = 0 then .tooDeep members else members)).Within depth := by
  intro v hv
  obtain ⟨ms, hms, rfl⟩ := map_eq_ok_iff.mp hv
  rw [Node.memberValues_nil] at hms
  obtain ⟨written, hwritten, rfl⟩ := map_eq_ok_iff.mp hms
  split_ifs at hwritten with hdepth
  · cases hwritten
  · have hle := Value.membersDepth_le_iff.mpr fun m hm =>
      h written hwritten m (Members.mem_of_mem_gathered hm)
    rw [Value.depth]
    omega

/-- What is read with some depth left is nested at most so deeply. -/
theorem within_read : ∀ fuel : Nat,
    (∀ depth text, (readNode fuel depth text).1.Within depth) ∧
    (∀ depth first text, (readItems fuel depth first text).1.Within depth) ∧
    (∀ depth first text, (readMembers fuel depth first text).1.Within depth)
  | 0 => ⟨fun _ _ => Node.within_flawed _, fun _ _ _ => Items.within_flawed _,
      fun _ _ _ => MemberNodes.within_flawed _⟩
  | fuel + 1 => by
    obtain ⟨ihNode, ihItems, ihMembers⟩ := within_read fuel
    refine ⟨fun depth text => ?_, fun depth first text => ?_, fun depth first text => ?_⟩
    · unfold readNode
      split
      · exact Node.within_flawed _
      · exact within_lexWord (fun _ h => by cases h; exact Nat.zero_le _) _ _
      · exact within_lexWord (fun _ h => by cases h; exact Nat.zero_le _) _ _
      · exact within_lexWord (fun _ h => by cases h; exact Nat.zero_le _) _ _
      · exact within_numeralNode _ _
      · exact within_literalNode _
      · exact Node.within_array (ihItems _ _ _)
      · exact Node.within_object (ihMembers _ _ _)
      · split_ifs
        · exact within_numeralNode _ _
        · exact Node.within_flawed _
      · exact Node.within_flawed _
    · unfold readItems
      split
      · exact Items.within_flawed _
      · exact fun _ h => by cases h; exact fun _ hv => absurd hv List.not_mem_nil
      · next text _ =>
        have hnode := ihNode depth text
        split
        · next node rest hread =>
          rw [hread] at hnode
          exact Items.within_item hnode (ihItems _ _ _)
        · next node hread =>
          rw [hread] at hnode
          exact Items.within_item hnode (Items.within_flawed _)
    · unfold readMembers
      split
      · exact MemberNodes.within_flawed _
      · exact fun _ h => by cases h; exact fun _ hv => absurd hv List.not_mem_nil
      · split
        · exact MemberNodes.within_flawed _
        · split
          · exact MemberNodes.within_member (Node.within_flawed _) (MemberNodes.within_flawed _)
          · next text _ =>
            have hnode := ihNode depth text
            split
            · next node rest hread =>
              rw [hread] at hnode
              exact MemberNodes.within_member hnode (ihMembers _ _ _)
            · next node hread =>
              rw [hread] at hnode
              exact MemberNodes.within_member hnode (MemberNodes.within_flawed _)

end Reading

/-- A value that is read from a text is nested no more deeply than its reader goes. -/
theorem Value.depth_le_of_parse {s : String} {v : Value} (h : Value.parse s = .ok v) :
    v.depth ≤ maxDepth := by
  have hroot : (Document.ofString s).root.value = .ok v := (Document.finish_eq_ok_iff.mp h).1
  have hread := (within_read (2 * (s.toList.map some).length + 2)).1 maxDepth (s.toList.map some)
  refine hread v ?_
  rw [← hroot, Document.ofString, Document.ofLetters]
  split
  · next root rest hnode => rw [hnode]
  · next root hnode => rw [hnode]

end LedgerLookup.Json
