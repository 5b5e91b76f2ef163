import LedgerLookup.Proofs.Json.Fields
import LedgerLookup.Proofs.Json.Ordered

/-!
# Trees that spell values

A tree spells a value when it has the same parts in the same order.  Where a key stands twice, both
members are there, so the tree says more than the value that is read from it, in which members are
sorted and the last of several with one key stays.
-/

namespace LedgerLookup.Json

mutual

/-- The tree has the parts of the value, in the same order. -/
inductive Node.Spells : Node → Value → Prop
  | null : Node.Spells .null .null
  | bool (b : Bool) : Node.Spells (.bool b) (.bool b)
  | number {n : Numeral} {m : Number} (h : Node.readNumeral n = .ok m) :
      Node.Spells (.numeral n) (.number m)
  | string {units : List LiteralUnit} {s : String} (h : Node.readLiteral units = .ok s) :
      Node.Spells (.literal units) (.string s)
  | array {items : Items} {vs : List Value} (h : Items.Spell items vs) :
      Node.Spells (.array items) (.array vs)
  | object {nodes : MemberNodes} {ms : Members} (h : MemberNodes.Spell nodes ms) :
      Node.Spells (.object nodes) (.object ms)

/-- The items spell the values one by one. -/
inductive Items.Spell : Items → List Value → Prop
  | closed : Items.Spell .closed []
  | item {node : Node} {rest : Items} {v : Value} {vs : List Value} (hnode : Node.Spells node v)
      (hrest : Items.Spell rest vs) : Items.Spell (.item node rest) (v :: vs)

/-- The members spell those of a value one by one. -/
inductive MemberNodes.Spell : MemberNodes → Members → Prop
  | closed : MemberNodes.Spell .closed []
  | member {key : List LiteralUnit} {node : Node} {rest : MemberNodes} {k : String} {v : Value}
      {ms : Members} (hkey : Node.readLiteral key = .ok k) (hnode : Node.Spells node v)
      (hrest : MemberNodes.Spell rest ms) : MemberNodes.Spell (.member key node rest) ((k, v) :: ms)

end

/-! ### Reading -/

mutual

/-- The value of a tree is the sorted form of what it spells. -/
theorem Node.Spells.value_eq : ∀ {n : Node} {v : Value}, n.Spells v → n.value = .ok v.sorted
  | _, _, .null => rfl
  | _, _, .bool _ => rfl
  | _, _, .number h => by rw [Node.value, h]; rfl
  | _, _, .string h => by rw [Node.value, h]; rfl
  | _, _, .array h => by rw [Node.value, h.itemValues_eq, Value.sorted_array]; rfl
  | _, _, .object h => by
    rw [Node.value, Node.memberValues_nil, h.writtenMembers_eq, Value.sorted_object]
    rfl

theorem Items.Spell.itemValues_eq : ∀ {items : Items} {vs : List Value}, items.Spell vs →
    Node.itemValues items = .ok (vs.map Value.sorted)
  | _, _, .closed => rfl
  | _, _, .item hnode hrest => by
    rw [Node.itemValues, hnode.value_eq, ok_bind, hrest.itemValues_eq]
    rfl

theorem MemberNodes.Spell.writtenMembers_eq : ∀ {nodes : MemberNodes} {ms : Members},
    nodes.Spell ms → Node.writtenMembers nodes = .ok ms.eachSorted
  | _, _, .closed => rfl
  | _, _, .member hkey hnode hrest => by
    rw [Node.writtenMembers, hkey, ok_bind, hnode.value_eq, ok_bind, hrest.writtenMembers_eq]
    rfl

end

/-- A node under a key spells the value of a member that has it. -/
theorem MemberNodes.Spell.exists_of_mem_under {nodes : MemberNodes} {ms : Members} {key : String}
    {node : Node} : nodes.Spell ms → node ∈ nodes.under key → ∃ v, (key, v) ∈ ms ∧ node.Spells v
  | .closed, hmem => absurd hmem List.not_mem_nil
  | @member _ first rest k v ms hkey hfirst hrest, hmem => by
    have later : node ∈ rest.under key → ∃ v', (key, v') ∈ (k, v) :: ms ∧ node.Spells v' := by
      intro hmem
      obtain ⟨v', hv', hnode⟩ := hrest.exists_of_mem_under hmem
      exact ⟨v', List.mem_cons_of_mem _ hv', hnode⟩
    rw [MemberNodes.under_member hkey] at hmem
    split_ifs at hmem with hk
    · rcases List.mem_cons.mp hmem with rfl | hmem
      · exact ⟨v, hk ▸ List.mem_cons_self, hfirst⟩
      · exact later hmem
    · exact later hmem

end LedgerLookup.Json
