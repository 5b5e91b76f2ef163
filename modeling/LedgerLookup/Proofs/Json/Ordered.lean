import LedgerLookup.Proofs.Json.Members

/-!
# Values in order

Every value that is read from a text has the members of its objects sorted by key, with no key
twice.  Sorting leaves such a value as it is, and makes one of any other.
-/

namespace LedgerLookup.Json

/-! ### Members -/

namespace Members

/-- Members are sorted by key, and no key stands twice. -/
def Ascending (ms : Members) : Prop :=
  ms.Pairwise fun m m' => m.1 < m'.1

theorem mem_of_mem_insert {k : String} {v : Value} {m : String × Value} :
    ∀ {ms : Members}, m ∈ insert k v ms → m = (k, v) ∨ m ∈ ms
  | [], h => .inl (List.mem_singleton.mp h)
  | (k', v') :: ms, h => by
    unfold insert at h
    split_ifs at h with hsame hless
    · exact (List.mem_cons.mp h).imp_right (List.mem_cons_of_mem _)
    · exact List.mem_cons.mp h
    · rcases List.mem_cons.mp h with rfl | h
      · exact .inr List.mem_cons_self
      · exact (mem_of_mem_insert h).imp_right (List.mem_cons_of_mem _)

/-- An inserted member stands between those with lesser and those with greater keys. -/
theorem Ascending.insert {k : String} {v : Value} :
    ∀ {ms : Members}, ms.Ascending → (Members.insert k v ms).Ascending
  | [], _ => List.pairwise_singleton ..
  | (k', v') :: ms, h => by
    obtain ⟨hhead, htail⟩ := List.pairwise_cons.mp h
    unfold Members.insert
    split_ifs with hsame hless
    · exact List.pairwise_cons.mpr ⟨fun m hm => hsame ▸ hhead m hm, htail⟩
    · refine List.pairwise_cons.mpr ⟨fun m hm => ?_, h⟩
      rcases List.mem_cons.mp hm with rfl | hm
      · exact hless
      · exact String.lt_trans hless (hhead m hm)
    · refine List.pairwise_cons.mpr ⟨fun m hm => ?_, insert htail⟩
      rcases mem_of_mem_insert hm with rfl | hm
      · by_contra hgreater
        exact hsame (String.le_antisymm (String.not_lt.mp hgreater) (String.not_lt.mp hless))
      · exact hhead m hm

/-- A member with a greater key than all others goes to the end. -/
theorem insert_of_forall_lt {k : String} {v : Value} :
    ∀ {ms : Members}, (∀ m ∈ ms, m.1 < k) → insert k v ms = ms ++ [(k, v)]
  | [], _ => rfl
  | (k', v') :: ms, h => by
    have hless : k' < k := h (k', v') List.mem_cons_self
    have hne : k ≠ k' := fun heq => String.lt_irrefl k' (heq ▸ hless)
    rw [insert, if_neg hne, if_neg (String.lt_asymm hless),
      insert_of_forall_lt fun m hm => h m (List.mem_cons_of_mem _ hm), List.cons_append]

theorem foldl_insert_of_ascending : ∀ {ms acc : Members}, (acc ++ ms).Ascending →
    ms.foldl (fun acc m => insert m.1 m.2 acc) acc = acc ++ ms
  | [], acc, _ => (List.append_nil acc).symm
  | m :: ms, acc, h => by
    have hlast : ∀ m' ∈ acc, m'.1 < m.1 := fun m' hm' =>
      (List.pairwise_append.mp h).2.2 m' hm' m List.mem_cons_self
    rw [List.append_cons] at h ⊢
    rw [List.foldl_cons, insert_of_forall_lt hlast, foldl_insert_of_ascending h]

/-- Members in order are gathered as they are. -/
theorem gathered_of_ascending {ms : Members} (h : ms.Ascending) : gathered ms = ms :=
  @foldl_insert_of_ascending ms [] h

theorem ascending_gathered (ms : Members) : (gathered ms).Ascending := by
  induction ms using List.reverseRecOn with
  | nil => exact List.Pairwise.nil
  | append_singleton ms m ih =>
    rw [gathered, List.foldl_append]
    exact ih.insert

theorem mem_of_mem_gathered {m : String × Value} {ms : Members} (h : m ∈ gathered ms) :
    m ∈ ms := by
  induction ms using List.reverseRecOn with
  | nil => exact h
  | append_singleton ms m' ih =>
    rw [gathered, List.foldl_append] at h
    rcases mem_of_mem_insert h with rfl | h
    · exact List.mem_append_right _ List.mem_cons_self
    · exact List.mem_append_left _ (ih h)

theorem perm_insert {k : String} {v : Value} :
    ∀ {ms : Members}, k ∉ ms.map (·.1) → (insert k v ms).Perm ((k, v) :: ms)
  | [], _ => List.Perm.refl _
  | (k', v') :: ms, h => by
    obtain ⟨hne, hrest⟩ := not_or.mp (List.mem_cons.not.mp h)
    rw [insert, if_neg hne]
    split_ifs with hless
    · exact List.Perm.refl _
    · exact ((perm_insert hrest).cons _).trans (List.Perm.swap ..)

/-- Of members with different keys none is lost. -/
theorem gathered_perm {ms : Members} (h : (ms.map (·.1)).Nodup) : (gathered ms).Perm ms := by
  induction ms using List.reverseRecOn with
  | nil => exact List.Perm.refl _
  | append_singleton ms m ih =>
    rw [List.map_append, List.nodup_append] at h
    obtain ⟨hms, -, hm⟩ := h
    have hnew : m.1 ∉ (gathered ms).map (·.1) := fun hmem => by
      obtain ⟨m', hm', hkey⟩ := List.mem_map.mp hmem
      exact hm m'.1 (List.mem_map_of_mem (mem_of_mem_gathered hm')) m.1 (by simp) hkey
    rw [gathered, List.foldl_append]
    exact (perm_insert hnew).trans
      (((ih hms).cons m).trans (List.perm_append_singleton m ms).symm)

/-- Members with the value of each one sorted. -/
def eachSorted (ms : Members) : Members :=
  ms.map fun m => (m.1, m.2.sorted)

theorem Ascending.nodup {ms : Members} (h : ms.Ascending) : (ms.map (·.1)).Nodup :=
  List.pairwise_map.mpr (h.imp fun {m m'} hlt (heq : m.1 = m'.1) =>
    String.lt_irrefl m'.1 (heq ▸ hlt))

end Members

/-! ### Values -/

namespace Value

/-- Induction over values, with the items of arrays and the members of objects as parts. -/
theorem induction {P : Value → Prop} (null : P .null) (bool : ∀ b, P (.bool b))
    (number : ∀ n, P (.number n)) (string : ∀ s, P (.string s))
    (array : ∀ items, (∀ v ∈ items, P v) → P (.array items))
    (object : ∀ members, (∀ m ∈ members, P m.2) → P (.object members)) : ∀ v, P v
  | .null => null
  | .bool b => bool b
  | .number n => number n
  | .string s => string s
  | .array items => array items fun v _ =>
    induction null bool number string array object v
  | .object members => object members fun m _ =>
    induction null bool number string array object m.2
termination_by v => sizeOf v
decreasing_by
  · have := List.sizeOf_lt_of_mem ‹v ∈ items›
    simp only [Value.array.sizeOf_spec]
    omega
  · have := List.sizeOf_lt_of_mem ‹m ∈ members›
    obtain ⟨k, v⟩ := m
    simp only [Value.object.sizeOf_spec, Prod.mk.sizeOf_spec] at this ⊢
    omega

/-- Every object in the value has its members sorted by key, with no key twice. -/
inductive Ordered : Value → Prop
  | null : Ordered .null
  | bool (b : Bool) : Ordered (.bool b)
  | number (n : Number) : Ordered (.number n)
  | string (s : String) : Ordered (.string s)
  | array {items : List Value} (h : ∀ v ∈ items, Ordered v) : Ordered (.array items)
  | object {members : Members} (hkeys : members.Ascending) (h : ∀ m ∈ members, Ordered m.2) :
      Ordered (.object members)

/-- No object in the value has a key twice. -/
inductive DistinctKeys : Value → Prop
  | null : DistinctKeys .null
  | bool (b : Bool) : DistinctKeys (.bool b)
  | number (n : Number) : DistinctKeys (.number n)
  | string (s : String) : DistinctKeys (.string s)
  | array {items : List Value} (h : ∀ v ∈ items, DistinctKeys v) : DistinctKeys (.array items)
  | object {members : Members} (hkeys : (members.map (·.1)).Nodup)
      (h : ∀ m ∈ members, DistinctKeys m.2) : DistinctKeys (.object members)

theorem sortedItems_eq : ∀ items : List Value, sortedItems items = items.map sorted
  | [] => rfl
  | v :: rest => by rw [sortedItems, sortedItems_eq rest, List.map_cons]

/-- Members are sorted by gathering their sorted forms. -/
theorem sortedMembers_eq : ∀ ms acc : Members, sortedMembers ms acc =
    ms.eachSorted.foldl (fun acc m => Members.insert m.1 m.2 acc) acc
  | [], _ => rfl
  | (k, v) :: rest, acc => by
    rw [sortedMembers, sortedMembers_eq rest]
    rfl

theorem sorted_object (ms : Members) :
    (object ms).sorted = object ms.eachSorted.gathered := by
  rw [sorted, sortedMembers_eq, Members.gathered]

theorem sorted_array (items : List Value) : (array items).sorted = array (items.map sorted) := by
  rw [sorted, sortedItems_eq]

/-- A value in order is left as it is. -/
theorem Ordered.sorted_eq {v : Value} (h : v.Ordered) : v.sorted = v := by
  induction h with
  | null | bool b | number n | string s => rfl
  | @array items _ ih =>
    have hitems : items.map sorted = items := (List.map_congr_left ih).trans (List.map_id items)
    rw [sorted_array, hitems]
  | @object members hkeys _ ih =>
    have hmembers : members.eachSorted = members :=
      (List.map_congr_left fun m hm => congrArg (Prod.mk m.1) (ih m hm)).trans
        (List.map_id members)
    rw [sorted_object, hmembers, Members.gathered_of_ascending hkeys]

theorem ordered_sorted (v : Value) : v.sorted.Ordered := by
  induction v using induction with
  | null => exact .null
  | bool b => exact .bool b
  | number n => exact .number n
  | string s => exact .string s
  | array items ih =>
    rw [sorted_array]
    exact .array (List.forall_mem_map.mpr ih)
  | object members ih =>
    rw [sorted_object]
    refine .object (Members.ascending_gathered _) fun m hm => ?_
    obtain ⟨m', hm', rfl⟩ := List.mem_map.mp (Members.mem_of_mem_gathered hm)
    exact ih m' hm'

/-- The values that are in order are those that sorting leaves as they are. -/
theorem sorted_eq_iff {v : Value} : v.sorted = v ↔ v.Ordered :=
  ⟨fun h => h ▸ v.ordered_sorted, Ordered.sorted_eq⟩

end Value

/-! ### Reading -/

namespace Node

/-- The value of an object gathers its members as they are written. -/
theorem memberValues_nil (nodes : MemberNodes) :
    memberValues nodes [] = (writtenMembers nodes).map Members.gathered :=
  memberValues_eq nodes []

mutual

/-- A value that is read from a text is in order. -/
theorem ordered_of_value : ∀ {n : Node} {v : Value}, n.value = .ok v → v.Ordered
  | .null, _, h => Except.ok.inj h ▸ .null
  | .bool b, _, h => Except.ok.inj h ▸ .bool b
  | .numeral n, _, h => by
    obtain ⟨n, -, rfl⟩ := map_eq_ok_iff.mp h
    exact .number n
  | .literal units, _, h => by
    obtain ⟨s, -, rfl⟩ := map_eq_ok_iff.mp h
    exact .string s
  | .array items, _, h => by
    obtain ⟨vs, hvs, rfl⟩ := map_eq_ok_iff.mp h
    exact .array (ordered_of_itemValues hvs)
  | .object members, _, h => by
    obtain ⟨ms, hms, rfl⟩ := map_eq_ok_iff.mp h
    rw [memberValues_nil] at hms
    obtain ⟨written, hwritten, rfl⟩ := map_eq_ok_iff.mp hms
    exact .object (Members.ascending_gathered written) fun m hm =>
      ordered_of_writtenMembers hwritten m (Members.mem_of_mem_gathered hm)
  | .flawed f, _, h => by cases h
termination_by structural n => n

theorem ordered_of_itemValues : ∀ {items : Items} {vs : List Value}, itemValues items = .ok vs →
    ∀ v ∈ vs, v.Ordered
  | .closed, _, h => by
    cases h
    exact fun _ hv => absurd hv List.not_mem_nil
  | .item node rest, _, h => by
    simp only [itemValues, bind_eq_ok_iff] at h
    obtain ⟨v, hv, vs, hvs, h⟩ := h
    cases h
    exact List.forall_mem_cons.mpr ⟨ordered_of_value hv, ordered_of_itemValues hvs⟩
  | .flawed f, _, h => by cases h
  | .tooDeep items, _, h => by cases h
termination_by structural items => items

theorem ordered_of_writtenMembers : ∀ {nodes : MemberNodes} {ms : Members},
    writtenMembers nodes = .ok ms → ∀ m ∈ ms, m.2.Ordered
  | .closed, _, h => by
    cases h
    exact fun _ hm => absurd hm List.not_mem_nil
  | .member key node rest, _, h => by
    simp only [writtenMembers, bind_eq_ok_iff] at h
    obtain ⟨k, -, v, hv, ms, hms, h⟩ := h
    cases h
    exact List.forall_mem_cons.mpr ⟨ordered_of_value hv, ordered_of_writtenMembers hms⟩
  | .flawed f, _, h => by cases h
  | .tooDeep members, _, h => by cases h
termination_by structural nodes => nodes

end

end Node

theorem Value.ordered_of_parse {s : String} {v : Value} (h : Value.parse s = .ok v) : v.Ordered :=
  Node.ordered_of_value (Document.finish_eq_ok_iff.mp h).1

end LedgerLookup.Json
