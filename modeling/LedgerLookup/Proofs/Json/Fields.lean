import LedgerLookup.Json.Record
import LedgerLookup.Proofs.Results
import Mathlib.Tactic.Common

/-!
# What is read from the members of an object

The nodes that stand under one key in a text, and what a record and a dictionary make of them: a
field of a record is read from the only node under its name, an entry of a dictionary from the last
node under its key.
-/

namespace LedgerLookup.Json

/-- The nodes under a key, in the order in which they are written. -/
def MemberNodes.under (key : String) : MemberNodes → List Node
  | .closed | .flawed _ | .tooDeep _ => []
  | .member units node rest =>
    match Node.readLiteral units with
    | .ok k => if k = key then node :: rest.under key else rest.under key
    | .error _ => rest.under key

theorem MemberNodes.under_member {units : List LiteralUnit} {node : Node} {rest : MemberNodes}
    {k : String} (h : Node.readLiteral units = .ok k) (key : String) :
    (MemberNodes.member units node rest).under key =
      if k = key then node :: rest.under key else rest.under key := by
  rw [under, h]

/-! ### Scalars -/

/-- Only a literal has the form of a string. -/
theorem Node.form_eq_string_iff {node : Node} {s : String} :
    node.form = .ok (.string s) ↔ ∃ units, node = .literal units ∧ readLiteral units = .ok s := by
  cases node with
  | literal units => simp [form, map_eq_ok_iff]
  | numeral n =>
    simp only [form, map_eq_ok_iff, reduceCtorEq, false_and, exists_false, iff_false, not_exists,
      not_and]
    rintro (i | x) - <;> exact Form.noConfusion
  | null => simp [form]
  | bool b => simp [form]
  | array items => simp [form]
  | object members => simp [form]
  | flawed f => simp [form]

/-- Only a literal is read as a string. -/
theorem Codec.string_ofNode_eq_ok_iff {node : Node} {s : String} :
    Codec.string.ofNode node = .ok s ↔
      ∃ units, node = .literal units ∧ Node.readLiteral units = .ok s := by
  rw [← Node.form_eq_string_iff]
  simp only [string, scalar, bind_eq_ok_iff]
  constructor
  · rintro ⟨form, hform, hread⟩
    cases form <;> cases hread
    exact hform
  · exact fun h => ⟨.string s, h, rfl⟩

/-! ### Dictionaries -/

section Dictionary

variable {α : Type} {c : Codec α}

theorem lookup_filter_ne {entries : List (String × α)} {k key : String} (h : k ≠ key) :
    (entries.filter (·.1 ≠ k)).lookup key = entries.lookup key := by
  induction entries with
  | nil => rfl
  | cons e entries ih =>
    obtain ⟨k', a⟩ := e
    by_cases hk : k' = k
    · rw [List.filter_cons_of_neg (by simp [hk]), ih, List.lookup_cons]
      simp [hk, beq_eq_false_iff_ne.mpr h.symm]
    · rw [List.filter_cons_of_pos (by simp [hk]), List.lookup_cons, List.lookup_cons, ih]

/-- The entry under a key is that of the last node under it. -/
theorem Codec.lookup_membersOfNodes : ∀ {members : MemberNodes} {acc entries : List (String × α)},
    c.membersOfNodes members acc = .ok entries → ∀ key,
      (members.under key = [] ∧ entries.lookup key = acc.lookup key) ∨
        ∃ node a, (members.under key).getLast? = some node ∧ c.ofNode node = .ok a ∧
          entries.lookup key = some a
  | .closed, acc, entries, h, key => by
    rw [membersOfNodes, Except.ok.injEq] at h
    exact .inl ⟨rfl, by rw [h]⟩
  | .flawed f, acc, entries, h, key => by cases h
  | .tooDeep f, acc, entries, h, key => by cases h
  | .member units node rest, acc, entries, h, key => by
    simp only [membersOfNodes, bind_eq_ok_iff] at h
    obtain ⟨k, hk, a, ha, h⟩ := h
    rw [MemberNodes.under_member hk]
    rcases lookup_membersOfNodes h key with ⟨hnone, hlookup⟩ | ⟨last, b, hlast, hb, hlookup⟩
    · by_cases hkey : k = key
      · exact .inr ⟨node, a, by simp [hkey, hnone], ha, by simp [hlookup, hkey]⟩
      · refine .inl ⟨by simp [hkey, hnone], ?_⟩
        rw [hlookup, List.lookup_cons, beq_eq_false_iff_ne.mpr (Ne.symm hkey)]
        exact lookup_filter_ne hkey
    · refine .inr ⟨last, b, ?_, hb, hlookup⟩
      split
      · rw [List.getLast?_cons, hlast]
        rfl
      · exact hlast
termination_by structural members => members

theorem Codec.dictionary_ofNode_eq_ok {node : Node} {entries : List (String × α)}
    (h : (dictionary c).ofNode node = .ok entries) :
    ∃ members, node = .object members ∧ c.membersOfNodes members [] = .ok entries := by
  unfold dictionary at h
  dsimp only at h
  split at h
  · next members => exact ⟨members, rfl, h⟩
  · obtain ⟨form, -, hrefused⟩ := bind_eq_ok_iff.mp h
    cases hrefused

end Dictionary

/-! ### Records -/

section Record

variable {σ α : Type} {r : Record σ} {name : String} {get : σ → α} {c : Codec α}

theorem Field.make_ofNode_eq_ok {absence : Absence} {set : σ → α → σ} {node : Node} {s s' : σ}
    (h : (make absence name c get set).ofNode node s = .ok s') :
    ∃ a, c.ofNode node = .ok a ∧ set s a = s' :=
  map_eq_ok_iff.mp h

/-- A field of a record that is read with a codec, and that no other field of the record
touches. -/
structure Record.Reads (r : Record σ) (name : String) (get : σ → α) (c : Codec α) : Prop where
  own : ∃ f, r.field? name = some f ∧
    ∀ {node s s'}, f.ofNode node s = .ok s' → c.ofNode node = .ok (get s')
  others : ∀ f ∈ r.fields, f.name ≠ name →
    ∀ {node s s'}, f.ofNode node s = .ok s' → get s' = get s

namespace Record

theorem of_field?_eq_some {k : String} {f : Field σ} (h : r.field? k = some f) :
    f ∈ r.fields ∧ f.name = k :=
  ⟨List.mem_of_find?_eq_some h, by simpa using List.find?_some h⟩

/-- What one member does to a field: nothing, if it stands under another name. -/
theorem ofMembers_member {units : List LiteralUnit} {node : Node} {rest : MemberNodes}
    {seen seen' : List String} {s s' : σ}
    (h : r.ofMembers (.member units node rest) seen s = .ok (seen', s')) :
    ∃ k, Node.readLiteral units = .ok k ∧
      ((r.field? k = none ∧ r.ofMembers rest seen s = .ok (seen', s')) ∨
        ∃ f t, r.field? k = some f ∧ k ∉ seen ∧ f.ofNode node s = .ok t ∧
          r.ofMembers rest (k :: seen) t = .ok (seen', s')) := by
  rw [ofMembers, bind_eq_ok_iff] at h
  obtain ⟨k, hk, h⟩ := h
  refine ⟨k, hk, ?_⟩
  cases hf : r.field? k with
  | none =>
    simp only [hf, bind_eq_ok_iff] at h
    obtain ⟨_, _, h⟩ := h
    exact .inl ⟨rfl, h⟩
  | some f =>
    simp only [hf] at h
    by_cases hseen : k ∈ seen
    · rw [if_pos hseen] at h
      cases h
    · rw [if_neg hseen] at h
      obtain ⟨t, ht, h⟩ := bind_eq_ok_iff.mp h
      exact .inr ⟨f, t, rfl, hseen, ht, h⟩

namespace Reads

theorem ne_of_field?_eq_none (hr : r.Reads name get c) {k : String} (h : r.field? k = none) :
    k ≠ name := by
  rintro rfl
  obtain ⟨f, hf, -⟩ := hr.own
  rw [h] at hf
  cases hf

/-- A field that has been read is not read again. -/
theorem kept (hr : r.Reads name get c) : ∀ {members : MemberNodes} {seen seen' : List String}
    {s s' : σ}, r.ofMembers members seen s = .ok (seen', s') → name ∈ seen →
      members.under name = [] ∧ get s' = get s
  | .closed, seen, seen', s, s', h, hseen => by
    rw [ofMembers, Except.ok.injEq, Prod.mk.injEq] at h
    obtain ⟨rfl, rfl⟩ := h
    exact ⟨rfl, rfl⟩
  | .flawed f, _, _, _, _, h, _ => by cases h
  | .tooDeep f, _, _, _, _, h, _ => by cases h
  | .member units node rest, seen, seen', s, s', h, hseen => by
    obtain ⟨k, hk, ⟨hnone, h⟩ | ⟨f, t, hf, hnew, ht, h⟩⟩ := ofMembers_member h
    · rw [MemberNodes.under_member hk, if_neg (hr.ne_of_field?_eq_none hnone)]
      exact kept hr h hseen
    · have hne : k ≠ name := by
        rintro rfl
        exact hnew hseen
      obtain ⟨hmem, rfl⟩ := of_field?_eq_some hf
      rw [MemberNodes.under_member hk, if_neg hne, ← hr.others f hmem hne ht]
      exact kept hr h (List.mem_cons_of_mem _ hseen)
termination_by structural members => members

/-- **A field is read from the only node under its name**, if there is one. -/
theorem read (hr : r.Reads name get c) : ∀ {members : MemberNodes} {seen seen' : List String}
    {s s' : σ}, r.ofMembers members seen s = .ok (seen', s') → name ∉ seen →
      (members.under name = [] ∧ get s' = get s ∧ name ∉ seen') ∨
        ∃ node, members.under name = [node] ∧ c.ofNode node = .ok (get s')
  | .closed, seen, seen', s, s', h, hseen => by
    rw [ofMembers, Except.ok.injEq, Prod.mk.injEq] at h
    obtain ⟨rfl, rfl⟩ := h
    exact .inl ⟨rfl, rfl, hseen⟩
  | .flawed f, _, _, _, _, h, _ => by cases h
  | .tooDeep f, _, _, _, _, h, _ => by cases h
  | .member units node rest, seen, seen', s, s', h, hseen => by
    obtain ⟨k, hk, ⟨hnone, h⟩ | ⟨f, t, hf, hnew, ht, h⟩⟩ := ofMembers_member h
    · rw [MemberNodes.under_member hk, if_neg (hr.ne_of_field?_eq_none hnone)]
      exact read hr h hseen
    · rw [MemberNodes.under_member hk]
      by_cases hkey : k = name
      · subst hkey
        obtain ⟨g, hg, hown⟩ := hr.own
        rw [hf, Option.some.injEq] at hg
        subst hg
        obtain ⟨hnone, hget⟩ := hr.kept h List.mem_cons_self
        refine .inr ⟨node, by rw [if_pos rfl, hnone], ?_⟩
        rw [hget]
        exact hown ht
      · obtain ⟨hmem, hname⟩ := of_field?_eq_some hf
        rw [if_neg hkey, ← hr.others f hmem (hname ▸ hkey) ht]
        exact read hr h (by simp [Ne.symm hkey, hseen])
termination_by structural members => members

end Reads

theorem complete_eq_ok {seen : List String} {s s' : σ} (h : r.complete seen s = .ok s') :
    s' = s ∧ ∀ f ∈ r.fields, f.absence = .required → f.name ∈ seen := by
  unfold complete at h
  split at h
  · cases h
  · next hnone =>
    refine ⟨(Except.ok.inj h).symm, fun f hf hrequired => ?_⟩
    simpa [hrequired] using List.find?_eq_none.mp hnone f hf

/-- A record is read from an object or from an array. -/
theorem codec_ofNode_eq_ok {node : Node} {s : σ} (h : r.codec.ofNode node = .ok s) :
    (∃ members seen, node = .object members ∧ r.ofMembers members [] r.empty = .ok (seen, s) ∧
      ∀ f ∈ r.fields, f.absence = .required → f.name ∈ seen) ∨
    ∃ items, node = .array items ∧ r.ofItems 0 r.fields items r.empty = .ok s := by
  unfold codec at h
  dsimp only at h
  split at h
  · next members =>
    obtain ⟨⟨seen, t⟩, hmembers, hcomplete⟩ := bind_eq_ok_iff.mp h
    obtain ⟨rfl, hrequired⟩ := complete_eq_ok hcomplete
    exact .inl ⟨members, seen, rfl, hmembers, hrequired⟩
  · next items => exact .inr ⟨items, rfl, h⟩
  · obtain ⟨form, -, hrefused⟩ := bind_eq_ok_iff.mp h
    cases hrefused

theorem finishArray_eq_ok {count : Nat} {fields : List (Field σ)} {s s' : σ}
    (h : r.finishArray count fields s = .ok s') :
    s' = s ∧ ∀ f ∈ fields, f.absence = .filled := by
  unfold finishArray at h
  split at h
  · cases h
  · next hnone =>
    refine ⟨(Except.ok.inj h).symm, fun f hf => ?_⟩
    simpa using List.findIdx?_eq_none_iff.mp hnone f hf

theorem eq_closed_of_endError? {items : Items} (h : items.endError? = none) : items = .closed := by
  cases items with
  | closed => rfl
  | item node rest => cases h
  | tooDeep items => cases h
  | flawed f =>
    rw [Items.endError?] at h
    split at h <;> cases h

/-- After the last field the array has to end. -/
theorem ofItems_nil_eq_ok {count : Nat} {items : Items} {s s' : σ}
    (h : r.ofItems count [] items s = .ok s') : items = .closed ∧ s' = s := by
  rw [ofItems] at h
  split at h
  · cases h
  · next hend => exact ⟨eq_closed_of_endError? hend, (Except.ok.inj h).symm⟩

/-- Before that the next item is read as the next field, or the array ends and no more fields are
needed. -/
theorem ofItems_cons_eq_ok {count : Nat} {f : Field σ} {fields : List (Field σ)} {items : Items}
    {s s' : σ} (h : r.ofItems count (f :: fields) items s = .ok s') :
    (items = .closed ∧ r.finishArray count (f :: fields) s = .ok s') ∨
      ∃ node rest t, items = .item node rest ∧ f.ofNode node s = .ok t ∧
        r.ofItems (count + 1) fields rest t = .ok s' := by
  cases items with
  | closed => exact .inl ⟨rfl, h⟩
  | item node rest =>
    rw [ofItems, bind_eq_ok_iff] at h
    obtain ⟨t, ht, h⟩ := h
    exact .inr ⟨node, rest, t, rfl, ht, h⟩
  | flawed f => cases h
  | tooDeep items => cases h

end Record

end Record

end LedgerLookup.Json
