import LedgerLookup.Proofs.Json.Document
import Mathlib.Data.List.Induction
import Mathlib.Data.List.Nodup
import Mathlib.Data.List.Perm.Basic

/-!
# The members of an object as they are written

The text of an object is a sequence of members, in which a key may stand more than once.  Reading it
puts one member after another into a list with one member for each key, so that the value under a
key is that of the last member that has it.
-/

namespace LedgerLookup.Json

/-! ### Keys -/

namespace Members

/-- The value of the last member with a key. -/
def last? (key : String) (ms : Members) : Option Value :=
  (ms.filter (·.1 = key)).getLast?.map (·.2)

/-- Members put one after another into an empty list. -/
def gathered (ms : Members) : Members :=
  ms.foldl (fun acc m => insert m.1 m.2 acc) []

theorem get?_eq_head? (key : String) : ∀ ms : Members,
    get? key ms = (ms.filter (·.1 = key)).head?.map (·.2)
  | [] => rfl
  | (k, v) :: rest => by
    by_cases hk : k = key
    · simp [get?, hk]
    · rw [get?, if_neg hk, List.filter_cons_of_neg (by simpa using hk), get?_eq_head? key rest]

theorem get?_congr {key : String} {ms ms' : Members}
    (h : ms.filter (·.1 = key) = ms'.filter (·.1 = key)) : get? key ms = get? key ms' := by
  rw [get?_eq_head?, get?_eq_head?, h]

theorem mem_of_get? {key : String} {v : Value} {ms : Members} (h : get? key ms = some v) :
    (key, v) ∈ ms := by
  rw [get?_eq_head?] at h
  obtain ⟨m, hm, rfl⟩ := Option.map_eq_some_iff.mp h
  obtain ⟨hmem, hkey⟩ := List.mem_filter.mp (List.mem_of_head? hm)
  rw [decide_eq_true_eq] at hkey
  exact hkey ▸ hmem

theorem get?_eq_none_iff {key : String} {ms : Members} :
    get? key ms = none ↔ key ∉ ms.map (·.1) := by
  rw [get?_eq_head?, Option.map_eq_none_iff, List.head?_eq_none_iff, List.filter_eq_nil_iff]
  simp only [decide_eq_true_eq, List.mem_map, not_exists, not_and]

/-- Where no key stands twice, every member is the one under its key. -/
theorem get?_eq_some_iff {key : String} {v : Value} {ms : Members} (h : (ms.map (·.1)).Nodup) :
    get? key ms = some v ↔ (key, v) ∈ ms := by
  refine ⟨mem_of_get?, fun hmem => ?_⟩
  cases hget : get? key ms with
  | none => exact absurd (List.mem_map_of_mem hmem) (get?_eq_none_iff.mp hget)
  | some v' => rw [(Prod.mk.inj (List.inj_on_of_nodup_map h (mem_of_get? hget) hmem rfl)).2]

theorem get?_filter (keep : String → Bool) (key : String) : ∀ ms : Members,
    get? key (ms.filter fun m => keep m.1) = if keep key then get? key ms else none
  | [] => by simp [get?]
  | (k, v) :: rest => by
    by_cases hk : k = key
    · subst hk
      cases hkeep : keep k <;> simp [hkeep, get?, get?_filter keep k rest]
    · cases hkeep : keep k <;> simp [hkeep, get?, hk, get?_filter keep key rest]

theorem get?_insert (key k : String) (v : Value) (ms : Members) :
    get? key (insert k v ms) = if k = key then some v else get? key ms := by
  induction ms with
  | nil => rfl
  | cons m ms ih =>
    obtain ⟨k', v'⟩ := m
    by_cases hsame : k = k'
    · subst hsame
      by_cases hk : k = key <;> simp [insert, get?, hk]
    by_cases hless : k < k'
    · simp [insert, get?, hsame, hless]
    · simp only [insert, if_neg hsame, if_neg hless, get?, ih]
      by_cases hk : k = key
      · simp [← hk, Ne.symm hsame]
      · simp [hk]

/-- The last member with a key is the one that stays. -/
theorem get?_gathered (key : String) (ms : Members) : get? key (gathered ms) = last? key ms := by
  induction ms using List.reverseRecOn with
  | nil => rfl
  | append_singleton ms m ih =>
    rw [gathered, List.foldl_append, ← gathered, List.foldl_cons, List.foldl_nil, get?_insert, ih]
    by_cases hk : m.1 = key <;> simp [last?, List.filter_append, hk]

/-- Of members with different keys all stay. -/
theorem get?_gathered_of_length_le_one {key : String} {ms : Members}
    (h : (ms.filter (·.1 = key)).length ≤ 1) : get? key (gathered ms) = get? key ms := by
  rw [get?_gathered, last?, get?_eq_head?]
  generalize ms.filter (·.1 = key) = same at h ⊢
  rcases same with _ | ⟨m, _ | ⟨m', rest⟩⟩
  · rfl
  · rfl
  · simp at h

/-- Only the members with a key count for it. -/
theorem last?_congr {key : String} {ms ms' : Members}
    (h : ms.filter (·.1 = key) = ms'.filter (·.1 = key)) : last? key ms = last? key ms' := by
  rw [last?, last?, h]

/-- At most one member has a key if no key stands twice. -/
theorem length_filter_key_le_one {ms : Members} (h : (ms.map (·.1)).Nodup) (key : String) :
    (ms.filter (·.1 = key)).length ≤ 1 := by
  have hpair : (ms.filter (·.1 = key)).Pairwise fun m m' => m.1 ≠ m'.1 :=
    (List.pairwise_map.mp h).filter _
  have hkey : ∀ m ∈ ms.filter (·.1 = key), m.1 = key := fun m hm => by
    simpa using List.of_mem_filter hm
  rcases hms : ms.filter (·.1 = key) with _ | ⟨m, _ | ⟨m', rest⟩⟩
  · simp [hms]
  · simp [hms]
  · rw [hms] at hpair hkey
    exact absurd ((hkey m (by simp)).trans (hkey m' (by simp)).symm)
      (List.rel_of_pairwise_cons hpair (by simp))

/-- The order of members with different keys does not count. -/
theorem filter_key_eq_of_perm {ms ms' : Members} (hperm : ms.Perm ms')
    (h : (ms.map (·.1)).Nodup) (key : String) :
    ms.filter (·.1 = key) = ms'.filter (·.1 = key) := by
  have hfilter := hperm.filter (·.1 = key)
  have hle := length_filter_key_le_one h key
  rcases hms : ms.filter (·.1 = key) with _ | ⟨m, _ | ⟨m', rest⟩⟩
  · rw [hms] at hfilter ⊢
    exact (List.nil_perm.mp hfilter).symm
  · rw [hms] at hfilter ⊢
    exact List.singleton_perm.mp hfilter
  · simp [hms] at hle

end Members

/-! ### Texts -/

namespace Node

/-- The members of an object in the order in which they are written. -/
def writtenMembers : MemberNodes → Except Error Members
  | .closed => .ok []
  | .member key node rest => do
    let k ← readLiteral key
    let v ← value node
    let ms ← writtenMembers rest
    return (k, v) :: ms
  | .flawed f => .error (.text f.reading)
  | .tooDeep _ => .error (.text .tooDeep)
termination_by structural members => members

/-- Reading the members of an object gathers them in the order in which they are written. -/
theorem memberValues_eq : ∀ (nodes : MemberNodes) (acc : Members),
    memberValues nodes acc = (writtenMembers nodes).map
      fun ms => ms.foldl (fun acc m => Members.insert m.1 m.2 acc) acc
  | .closed, _ => rfl
  | .flawed _, _ => rfl
  | .tooDeep _, _ => rfl
  | .member key node rest, acc => by
    rw [memberValues, writtenMembers]
    cases readLiteral key with
    | error e => rfl
    | ok k =>
      cases value node with
      | error e => rfl
      | ok v =>
        simp only [ok_bind, memberValues_eq rest]
        cases writtenMembers rest <;> rfl
termination_by structural nodes => nodes

end Node

/-- The string is the text of an object with these members, in the order in which they are
written. -/
def IsObjectText (s : String) (ms : Members) : Prop :=
  (∃ nodes, (Document.ofString s).root = .object nodes ∧ Node.writtenMembers nodes = .ok ms) ∧
    (Document.ofString s).trailing = false

/-- The value of a text is an object exactly when the text has a sequence of members, and these are
gathered in it. -/
theorem parse_eq_object_iff_written {s : String} {ms : Members} :
    Value.parse s = .ok (.object ms) ↔
      ∃ written, IsObjectText s written ∧ written.gathered = ms := by
  simp only [Value.parse_eq_object_iff, Node.memberValues_eq, map_eq_ok_iff, IsObjectText]
  constructor
  · rintro ⟨⟨nodes, hroot, written, hwritten, hms⟩, ht⟩
    exact ⟨written, ⟨⟨nodes, hroot, hwritten⟩, ht⟩, hms⟩
  · rintro ⟨written, ⟨⟨nodes, hroot, hwritten⟩, ht⟩, hms⟩
    exact ⟨⟨nodes, hroot, written, hwritten, hms⟩, ht⟩

end LedgerLookup.Json
