import LedgerLookup.Proofs.Json.Codec
import LedgerLookup.Proofs.Json.Layout
import LedgerLookup.Proofs.Json.Ordered

/-!
# Two routes to one result

A text that can be read as a value is read by a codec straight from its tree or through the value.
The two routes agree on a tree if they agree on the parts that the codec looks at.  Reading a record
straight from a text refuses a name that stands twice, so for records no name of a field may.
-/

namespace LedgerLookup.Json

variable {α σ : Type}

/-! ### Trees with a value -/

namespace Node

mutual

/-- What can be read can be skipped. -/
theorem skip_of_value : ∀ {n : Node} {x : Value}, n.value = .ok x → n.skip = .ok ()
  | .null, _, _ => rfl
  | .bool _, _, _ => rfl
  | .numeral _, _, _ => rfl
  | .literal _, _, _ => rfl
  | .array _, _, h => by
    obtain ⟨vs, hvs, -⟩ := map_eq_ok_iff.mp h
    exact skipItems_of_itemValues hvs
  | .object _, _, h => by
    obtain ⟨ms, hms, -⟩ := map_eq_ok_iff.mp h
    rw [memberValues_nil] at hms
    obtain ⟨written, hwritten, -⟩ := map_eq_ok_iff.mp hms
    exact skipMembers_of_writtenMembers hwritten
  | .flawed _, _, h => by cases h
termination_by structural n => n

theorem skipItems_of_itemValues : ∀ {items : Items} {vs : List Value},
    itemValues items = .ok vs → skipItems items = .ok ()
  | .closed, _, _ => rfl
  | .item node rest, _, h => by
    simp only [itemValues, bind_eq_ok_iff] at h
    obtain ⟨v, hv, vs, hvs, -⟩ := h
    rw [skipItems, skip_of_value hv, ok_bind, skipItems_of_itemValues hvs]
  | .flawed _, _, h => by cases h
  | .tooDeep _, _, h => by cases h
termination_by structural items => items

theorem skipMembers_of_writtenMembers : ∀ {nodes : MemberNodes} {ms : Members},
    writtenMembers nodes = .ok ms → skipMembers nodes = .ok ()
  | .closed, _, _ => rfl
  | .member key node rest, _, h => by
    simp only [writtenMembers, bind_eq_ok_iff] at h
    obtain ⟨k, -, v, hv, ms, hms, -⟩ := h
    rw [skipMembers, skip_of_value hv, ok_bind, skipMembers_of_writtenMembers hms]
  | .flawed _, _, h => by cases h
  | .tooDeep _, _, h => by cases h
termination_by structural nodes => nodes

end

/-- A tree has the form of its value. -/
theorem form_of_value {n : Node} {x : Value} (h : n.value = .ok x) : n.form = .ok x.form := by
  cases n with
  | null | bool b => cases h; rfl
  | numeral n =>
    obtain ⟨m, hm, rfl⟩ := map_eq_ok_iff.mp h
    rw [form, hm]
    cases m <;> rfl
  | literal units =>
    obtain ⟨s, hs, rfl⟩ := map_eq_ok_iff.mp h
    rw [form, hs]
    rfl
  | array items | object members =>
    obtain ⟨parts, -, rfl⟩ := map_eq_ok_iff.mp h
    rfl
  | flawed f => cases h

end Node

/-- The items of an array as far as they are written. -/
def Items.nodes : Items → List Node
  | .item node rest => node :: rest.nodes
  | _ => []

/-- Under a key there are as many values as nodes. -/
theorem Node.length_filter_writtenMembers : ∀ {nodes : MemberNodes} {ms : Members},
    writtenMembers nodes = .ok ms → ∀ key,
      (ms.filter (·.1 = key)).length = (nodes.under key).length
  | .closed, _, h, key => by cases h; rfl
  | .member units node rest, _, h, key => by
    simp only [writtenMembers, bind_eq_ok_iff] at h
    obtain ⟨k, hk, v, -, ms, hms, h⟩ := h
    cases h
    rw [MemberNodes.under_member hk]
    by_cases hkey : k = key <;> simp [hkey, length_filter_writtenMembers hms key]
  | .flawed _, _, h, _ => by cases h
  | .tooDeep _, _, h, _ => by cases h
termination_by structural nodes => nodes

/-! ### Agreement -/

/-- If the tree has a value, the codec reads the same from the tree as from the value. -/
def Codec.AgreesOn (c : Codec α) (n : Node) : Prop :=
  ∀ x, n.value = .ok x → ∀ a, c.ofNode n = .ok a ↔ c.ofValue x = .ok a

namespace Codec

variable {c : Codec α} {n : Node}

theorem agreesOn_scalar {read : Form → Except Error α} {toValue : α → Value} :
    (scalar read toValue).AgreesOn n := by
  intro x hx a
  simp only [scalar, Node.form_of_value hx, ok_bind]

theorem agreesOn_any : any.AgreesOn n := by
  intro x hx a
  simp only [any, hx]

theorem AgreesOn.option (h : c.AgreesOn n) : c.option.AgreesOn n := by
  intro x hx a
  cases n with
  | null =>
    cases hx
    rfl
  | flawed f => cases hx
  | bool b =>
    cases hx
    simp only [Codec.option, map_eq_ok_iff, h _ rfl]
  | numeral m | literal units | array items | object members =>
    obtain ⟨y, -, rfl⟩ := map_eq_ok_iff.mp hx
    simp only [Codec.option, map_eq_ok_iff, h _ hx]

theorem Plain.agreesOn (h : c.Plain) : c.AgreesOn n := by
  induction h with
  | string | bool | double | word w => exact agreesOn_scalar
  | any => exact agreesOn_any
  | option _ ih => exact ih.option

theorem itemsOfNodes_eq_ok_iff : ∀ {items : Items} {vs : List Value} {as : List α},
    Node.itemValues items = .ok vs → (∀ node ∈ items.nodes, c.AgreesOn node) →
      (c.itemsOfNodes items = .ok as ↔ vs.mapM c.ofValue = .ok as)
  | .closed, _, _, h, _ => by cases h; rfl
  | .item node rest, _, as, h, hagree => by
    simp only [Node.itemValues, bind_eq_ok_iff] at h
    obtain ⟨v, hv, vs, hvs, h⟩ := h
    cases h
    obtain ⟨hnode, hrest⟩ := List.forall_mem_cons.mp hagree
    simp only [itemsOfNodes, List.mapM_cons, bind_eq_ok_iff, hnode v hv,
      itemsOfNodes_eq_ok_iff hvs hrest]
  | .flawed _, _, _, h, _ => by cases h
  | .tooDeep _, _, _, h, _ => by cases h
termination_by structural items => items

theorem AgreesOn.list (h : ∀ items, n = .array items → ∀ node ∈ items.nodes, c.AgreesOn node) :
    c.list.AgreesOn n := by
  intro x hx a
  have hform := Node.form_of_value hx
  cases n with
  | array items =>
    obtain ⟨vs, hvs, rfl⟩ := map_eq_ok_iff.mp hx
    exact itemsOfNodes_eq_ok_iff hvs (h items rfl)
  | flawed f => cases hx
  | null | bool b =>
    cases hx
    exact Iff.rfl
  | numeral m | literal units | object members =>
    obtain ⟨y, hy, rfl⟩ := map_eq_ok_iff.mp hx
    simp only [Codec.list, hform, ok_bind]

end Codec

/-! ### Records -/

theorem Place.field_ofNode_eq_iff {p : Place σ} {node : Node} {x : Value} {s t : σ}
    (h : p.codec.AgreesOn node) (hx : node.value = .ok x) :
    p.field.ofNode node s = .ok t ↔ p.field.ofValue x s = .ok t := by
  rw [field_ofValue_eq_ok_iff]
  simp only [← h x hx]
  exact map_eq_ok_iff

namespace Layout

variable {r : Record σ} (l : Layout r)

include l

/-- Members whose names do not stand twice are read alike as they are written and as they are
gathered from the text. -/
theorem ofMembers_eq_ok_iff : ∀ {nodes : MemberNodes} {written : Members} {seen : List String}
    {s : σ} {result : List String × σ}, Node.writtenMembers nodes = .ok written →
      (∀ p ∈ l.places, (nodes.under p.name).length ≤ 1) →
      (∀ p ∈ l.places, p.name ∈ seen → nodes.under p.name = []) →
      (∀ p ∈ l.places, ∀ node ∈ nodes.under p.name, p.codec.AgreesOn node) →
        (r.ofMembers nodes seen s = .ok result ↔ r.ofEntries written seen s = .ok result)
  | .closed, _, _, _, _, h, _, _, _ => by cases h; rfl
  | .member units node rest, _, seen, s, result, h, honce, hnew, hagree => by
    simp only [Node.writtenMembers, bind_eq_ok_iff] at h
    obtain ⟨k, hk, x, hx, written, hwritten, h⟩ := h
    cases h
    have hsub : ∀ key, (rest.under key).Sublist ((MemberNodes.member units node rest).under key) :=
      fun key => by
        rw [MemberNodes.under_member hk]
        split
        · exact List.sublist_cons_self _ _
        · exact List.Sublist.refl _
    have honce' : ∀ p ∈ l.places, (rest.under p.name).length ≤ 1 :=
      fun p hp => Nat.le_trans (hsub _).length_le (honce p hp)
    have hnew' : ∀ p ∈ l.places, p.name ∈ seen → rest.under p.name = [] :=
      fun p hp hseen => List.sublist_nil.mp (hnew p hp hseen ▸ hsub p.name)
    have hagree' : ∀ p ∈ l.places, ∀ node ∈ rest.under p.name, p.codec.AgreesOn node :=
      fun p hp node hnode => hagree p hp node ((hsub _).subset hnode)
    rw [Record.ofMembers, hk, ok_bind, Record.ofEntries]
    cases hfield : r.field? k with
    | none =>
      simp only [Node.skip_of_value hx, ok_bind]
      exact ofMembers_eq_ok_iff hwritten honce' hnew' hagree'
    | some f =>
      obtain ⟨p, hp, rfl, rfl⟩ := l.exists_of_field?_eq_some hfield
      have hunder : (MemberNodes.member units node rest).under p.name =
          node :: rest.under p.name := by
        rw [MemberNodes.under_member hk, if_pos rfl]
      -- the straight reader refuses a name that it has seen, so none may come again
      have hseen : p.name ∉ seen := fun hmem => by
        rw [hnew p hp hmem] at hunder
        cases hunder
      have hlast : rest.under p.name = [] := by
        have hlength := honce p hp
        rw [hunder, List.length_cons] at hlength
        exact List.length_eq_zero_iff.mp (by omega)
      have hnew'' : ∀ q ∈ l.places, q.name ∈ p.name :: seen → rest.under q.name = [] := by
        intro q hq hmem
        rcases List.mem_cons.mp hmem with hname | hmem
        · rw [hname, hlast]
        · exact hnew' q hq hmem
      have hnode : p.codec.AgreesOn node := hagree p hp node (hunder ▸ List.mem_cons_self)
      simp only [if_neg hseen, bind_eq_ok_iff, Place.field_ofNode_eq_iff hnode hx,
        ofMembers_eq_ok_iff hwritten honce' hnew'' hagree']
  | .flawed _, _, _, _, _, h, _, _, _ => by cases h
  | .tooDeep _, _, _, _, _, h, _, _, _ => by cases h
termination_by structural nodes => nodes

omit l in
theorem ofItems_eq_ok_iff (size : Nat) : ∀ {ps : List (Place σ)} {items : Items}
    {vs : List Value} {count : Nat} {s s' : σ}, Node.itemValues items = .ok vs →
      (∀ q ∈ ps.zip items.nodes, q.1.codec.AgreesOn q.2) →
        (r.ofItems count (ps.map Place.field) items s = .ok s' ↔
          r.ofElements size count (ps.map Place.field) vs s = .ok s')
  | [], .closed, _, _, _, _, h, _ => by cases h; rfl
  | _ :: _, .closed, _, _, _, _, h, _ => by cases h; rfl
  | [], .item node rest, _, _, _, _, h, _ => by
    simp only [Node.itemValues, bind_eq_ok_iff] at h
    obtain ⟨x, -, vs, -, h⟩ := h
    cases h
    simp [Record.ofItems, Record.ofElements, Items.endError?]
  | p :: ps, .item node rest, _, count, s, s', h, hagree => by
    simp only [Node.itemValues, bind_eq_ok_iff] at h
    obtain ⟨x, hx, vs, hvs, h⟩ := h
    cases h
    rw [Items.nodes, List.zip_cons_cons] at hagree
    obtain ⟨hnode, hrest⟩ := List.forall_mem_cons.mp hagree
    simp only [List.map_cons, Record.ofItems, Record.ofElements, bind_eq_ok_iff,
      Place.field_ofNode_eq_iff hnode hx, ofItems_eq_ok_iff size hvs hrest]
  | _, .flawed _, _, _, _, _, h, _ => by cases h
  | _, .tooDeep _, _, _, _, _, h, _ => by cases h
termination_by structural ps => ps

theorem ofNode_object_eq_ok_iff {nodes : MemberNodes} {a : σ} :
    r.codec.ofNode (.object nodes) = .ok a ↔
      ∃ seen, r.ofMembers nodes [] r.empty = .ok (seen, a) := by
  simp only [Record.codec, bind_eq_ok_iff, Prod.exists, l.complete_eq, Except.ok.injEq]
  exact exists_congr fun seen => exists_eq_right

/-- **The two routes agree on a record** if no name of a field stands twice and they agree on what
stands under these names, or at the places of the fields in an array. -/
theorem agreesOn {n : Node}
    (hobject : ∀ nodes, n = .object nodes → ∀ p ∈ l.places, (nodes.under p.name).length ≤ 1 ∧
      ∀ node ∈ nodes.under p.name, p.codec.AgreesOn node)
    (harray : ∀ items, n = .array items → ∀ q ∈ l.places.zip items.nodes, q.1.codec.AgreesOn q.2) :
    r.codec.AgreesOn n := by
  intro x hx a
  have hform := Node.form_of_value hx
  cases n with
  | object nodes =>
    obtain ⟨ms, hms, rfl⟩ := map_eq_ok_iff.mp hx
    rw [Node.memberValues_nil] at hms
    obtain ⟨written, hwritten, rfl⟩ := map_eq_ok_iff.mp hms
    have hparts := hobject nodes rfl
    have honce : ∀ p ∈ l.places, (written.filter (·.1 = p.name)).length ≤ 1 := fun p hp => by
      rw [Node.length_filter_writtenMembers hwritten]
      exact (hparts p hp).1
    have hwritten_iff : ∀ seen, r.ofMembers nodes [] r.empty = .ok (seen, a) ↔
        r.ofEntries written [] r.empty = .ok (seen, a) := fun seen =>
      l.ofMembers_eq_ok_iff hwritten (fun p hp => (hparts p hp).1)
        (fun _ _ hseen => absurd hseen List.not_mem_nil) fun p hp => (hparts p hp).2
    rw [l.ofNode_object_eq_ok_iff, exists_congr hwritten_iff, l.ofEntries_eq_ok_iff [] honce,
      l.ofValue_object_eq_ok_iff (Members.ascending_gathered written).nodup]
    exact forall₂_congr fun p hp => by
      rw [Members.get?_gathered_of_length_le_one (honce p hp)]
  | array items =>
    obtain ⟨vs, hvs, rfl⟩ := map_eq_ok_iff.mp hx
    have hitems := harray items rfl
    change r.ofItems 0 r.fields items r.empty = .ok a ↔
      r.ofElements vs.length 0 r.fields vs r.empty = .ok a
    rw [l.fields_eq]
    exact ofItems_eq_ok_iff _ hvs hitems
  | flawed f => cases hx
  | null | bool b =>
    cases hx
    exact Iff.rfl
  | numeral m | literal units =>
    obtain ⟨y, hy, rfl⟩ := map_eq_ok_iff.mp hx
    simp only [Record.codec, hform, ok_bind]

end Layout

end LedgerLookup.Json
