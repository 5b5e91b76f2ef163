import LedgerLookup.Proofs.Json.Rewriting
import LedgerLookup.Proofs.Json.RoundTrip
import LedgerLookup.Proofs.Json.Routes

/-!
# Records that are read from what was written

A record is read from the text that is written for it, straight and through a value, and also when
members are left out: then the places that are no longer written are as in the empty structure.
-/

namespace LedgerLookup.Json

variable {α σ : Type}

/-! ### Values with members left out -/

namespace Value

/-- An object with those members only whose names are kept. -/
def only (keep : String → Bool) : Value → Value
  | object ms => .object (ms.filter fun m => keep m.1)
  | v => v

@[simp] theorem only_true (v : Value) : v.only (fun _ => true) = v := by
  cases v with
  | object ms => exact congrArg object (List.filter_true ms)
  | _ => rfl

/-- An object with a change made to what stands under a key. -/
def modify (key : String) (change : Value → Value) : Value → Value
  | object ms => .object (ms.map fun m => if m.1 = key then (m.1, change m.2) else m)
  | v => v

@[simp] theorem modify_self (key : String) (v : Value) : v.modify key (fun x => x) = v := by
  cases v with
  | object ms => simp [modify]
  | _ => rfl

end Value

/-! ### Codecs -/

namespace Codec

variable {c : Codec α} {a : α} {v : Value} {depth : Nat}

/-- What is written for a value is read as `a`: straight from its text, through the value of that
text, and from the value itself once its members are sorted. -/
structure Recovers (c : Codec α) (v : Value) (a : α) : Prop where
  text : c.fromText v.render = .ok a
  valueOfText : c.fromValueOf v.render = .ok a
  value : c.ofValue v.sorted = .ok a

/-- A value without doubles, nested no more deeply than that, is read as `a`, and from the trees
that spell it the codec reads what it reads from the value. -/
structure ReadsWritten (c : Codec α) (depth : Nat) (v : Value) (a : α) : Prop where
  whole : v.hasDouble = false
  depth_le : v.depth ≤ depth
  value : c.ofValue v.sorted = .ok a
  agrees : ∀ n : Node, n.Spells v → c.AgreesOn n

theorem ReadsWritten.recovers (h : c.ReadsWritten depth v a) (hdepth : depth ≤ maxDepth) :
    c.Recovers v a := by
  have hle : v.depth ≤ maxDepth := Nat.le_trans h.depth_le hdepth
  obtain ⟨node, hdocument, hspells⟩ := Value.exists_spells_render h.whole hle
  have hnode : c.ofNode node = .ok a := (h.agrees node hspells _ hspells.value_eq a).mpr h.value
  refine ⟨?_, ?_, h.value⟩
  · rw [fromText, ofDocument, hdocument]
    exact Document.finish_eq_ok_iff.mpr ⟨hnode, rfl⟩
  · rw [fromValueOf, Value.parse_render h.whole hle, ok_bind]
    exact h.value

theorem Plain.readsWritten (hc : c.Plain) (hwhole : v.hasDouble = false) (hdepth : v.depth ≤ depth)
    (hread : c.ofValue v.sorted = .ok a) : c.ReadsWritten depth v a :=
  ⟨hwhole, hdepth, hread, fun _ _ => hc.agreesOn⟩

theorem readsWritten_string (depth : Nat) (s : String) :
    string.ReadsWritten depth (string.toValue s) s :=
  Plain.string.readsWritten rfl (Nat.zero_le depth) rfl

theorem readsWritten_word (depth : Nat) {w : Width} (i : Word w) :
    (word w).ReadsWritten depth ((word w).toValue i) i :=
  (Plain.word w).readsWritten rfl (Nat.zero_le depth) (rereads_word i).sorted

theorem readsWritten_option_word (depth : Nat) {w : Width} (o : Option (Word w)) :
    (word w).option.ReadsWritten depth ((word w).option.toValue o) o := by
  have hplain : (word w).option.Plain := .option (.word w)
  cases o with
  | none => exact hplain.readsWritten rfl (Nat.zero_le depth) (rereads_none _).sorted
  | some i =>
    have hsome : (word w).option.Rereads (some i) := (rereads_word i).some Value.noConfusion
    exact hplain.readsWritten rfl (Nat.zero_le depth) hsome.sorted

end Codec

/-! ### Records -/

namespace Layout

variable {r : Record σ} (l : Layout r) {f : Place σ → Value} {keep : String → Bool} {s t : σ}

/-- The members of a value for each place, those whose names are not kept being left out. -/
def keptMembers (f : Place σ → Value) (keep : String → Bool) : Members :=
  (l.places.map fun p => (p.name, f p)).filter fun m => keep m.1

theorem only_toValue (keep : String → Bool) (s : σ) : (r.codec.toValue s).only keep =
    .object (l.keptMembers (fun p => p.codec.toValue (p.get s)) keep) := by
  rw [l.toValue_eq]
  rfl

theorem only_modify_toValue (keep : String → Bool) (key : String) (change : Value → Value) (s : σ) :
    ((r.codec.toValue s).modify key change).only keep = .object (l.keptMembers (fun p =>
      if p.name = key then change (p.codec.toValue (p.get s)) else p.codec.toValue (p.get s))
        keep) := by
  rw [l.toValue_eq, Value.modify, Value.only, List.map_map, keptMembers]
  congr 2
  refine List.map_congr_left fun p _ => ?_
  by_cases hname : p.name = key <;> simp [hname]

theorem nodup_keptMembers (f : Place σ → Value) (keep : String → Bool) :
    ((l.keptMembers f keep).map (·.1)).Nodup :=
  (l.nodup_map_places f).sublist (List.filter_sublist.map _)

theorem eachSorted_keptMembers :
    (l.keptMembers f keep).eachSorted = l.keptMembers (fun p => (f p).sorted) keep := by
  unfold Members.eachSorted keptMembers
  rw [List.filter_map, List.filter_map, List.map_map]
  rfl

/-- A member stands for a place that is kept. -/
theorem exists_place_of_mem {m : String × Value} (h : m ∈ l.keptMembers f keep) :
    ∃ p ∈ l.places, m = (p.name, f p) := by
  obtain ⟨p, hp, rfl⟩ := List.mem_map.mp (List.mem_of_mem_filter h)
  exact ⟨p, hp, rfl⟩

section Kept

variable (hget : ∀ p ∈ l.places, p.get t = if keep p.name then p.get s else p.get r.empty)

include hget

/-- What is kept is read, and what is left out is as in the empty structure. -/
theorem ofValue_keptMembers (hread : ∀ p ∈ l.places, p.codec.ofValue (f p) = .ok (p.get s)) :
    r.codec.ofValue (.object (l.keptMembers f keep)) = .ok t := by
  refine (l.ofValue_object_eq_ok_iff (l.nodup_keptMembers f keep)).mpr fun p hp => ?_
  have hall : Members.get? p.name (l.places.map fun p => (p.name, f p)) = some (f p) :=
    (Members.get?_eq_some_iff (l.nodup_map_places f)).mpr (List.mem_map_of_mem hp)
  have hp' := hget p hp
  rw [keptMembers, Members.get?_filter, hall]
  cases hkeep : keep p.name with
  | true =>
    rw [hkeep, if_pos rfl] at hp'
    show p.codec.ofValue (f p) = .ok (p.get t)
    rw [hp', hread p hp]
  | false =>
    rw [hkeep] at hp'
    exact hp'

/-- **A record is read from what is left of it**, from a value as well as straight from the tree of
a text, if each of its places is. -/
theorem readsWritten {depth : Nat}
    (hread : ∀ p ∈ l.places, p.codec.ReadsWritten depth (f p) (p.get s)) :
    r.codec.ReadsWritten (depth + 1) (.object (l.keptMembers f keep)) t where
  whole := by
    refine Value.membersHaveDouble_eq_false_iff.mpr fun m hm => ?_
    obtain ⟨p, hp, rfl⟩ := l.exists_place_of_mem hm
    exact (hread p hp).whole
  depth_le := by
    refine Nat.add_le_add_right (Value.membersDepth_le_iff.mpr fun m hm => ?_) 1
    obtain ⟨p, hp, rfl⟩ := l.exists_place_of_mem hm
    exact (hread p hp).depth_le
  value := by
    rw [l.ofValue_sorted_object_iff (l.nodup_keptMembers f keep), l.eachSorted_keptMembers]
    exact l.ofValue_keptMembers hget fun p hp => (hread p hp).value
  agrees n hn := by
    cases hn with
    | object hspell =>
      refine l.agreesOn (fun nodes hnodes p hp => ?_) fun items hitems => nomatch hitems
      obtain rfl := Node.object.inj hnodes
      refine ⟨?_, fun node hnode => ?_⟩
      · rw [← Node.length_filter_writtenMembers hspell.writtenMembers_eq, l.eachSorted_keptMembers]
        exact Members.length_filter_key_le_one (l.nodup_keptMembers _ keep) p.name
      · obtain ⟨v, hv, hspells⟩ := hspell.exists_of_mem_under hnode
        obtain ⟨q, hq, heq⟩ := l.exists_place_of_mem hv
        obtain ⟨hname, rfl⟩ := Prod.mk.inj heq
        obtain rfl := l.name_injective hp hq hname
        exact (hread p hp).agrees node hspells

end Kept

end Layout

/-! ### Fields that may be null -/

namespace Record

variable {r : Record σ}

/-- The record with every field filled when it is not written. -/
def filled (r : Record σ) : Record σ where
  name := r.name
  empty := r.empty
  fields := r.fields.map fun f => { f with absence := .filled }

theorem field?_filled (r : Record σ) (k : String) :
    r.filled.field? k = (r.field? k).map fun f => { f with absence := .filled } := by
  unfold field? filled
  rw [List.find?_map]
  rfl

theorem ofMembers_filled : ∀ (nodes : MemberNodes) (seen : List String) (s : σ),
    r.filled.ofMembers nodes seen s = r.ofMembers nodes seen s
  | .closed, _, _ => rfl
  | .flawed _, _, _ => rfl
  | .tooDeep _, _, _ => rfl
  | .member key node rest, seen, s => by
    rw [ofMembers, ofMembers]
    refine bind_congr fun k => ?_
    rw [field?_filled]
    cases r.field? k with
    | none => exact bind_congr fun _ => ofMembers_filled rest seen s
    | some f =>
      by_cases hseen : k ∈ seen
      · simp only [Option.map_some, if_pos hseen]
        rfl
      · simp only [Option.map_some, if_neg hseen]
        exact bind_congr fun t => ofMembers_filled rest (k :: seen) t
termination_by structural nodes => nodes

theorem ofEntries_filled : ∀ (ms : Members) (seen : List String) (s : σ),
    r.filled.ofEntries ms seen s = r.ofEntries ms seen s
  | [], _, _ => rfl
  | (k, v) :: rest, seen, s => by
    rw [ofEntries, ofEntries, field?_filled]
    cases r.field? k with
    | none => exact ofEntries_filled rest seen s
    | some f => exact bind_congr fun t => ofEntries_filled rest (k :: seen) t

theorem complete_of_no_required (h : ∀ f ∈ r.fields, f.absence ≠ .required) (seen : List String)
    (s : σ) : r.complete seen s = .ok s := by
  have hnone :
      r.fields.find? (fun f => f.absence == .required && !seen.contains f.name) = none := by
    refine List.find?_eq_none.mpr fun f hf => ?_
    simp [h f hf]
  rw [complete, hnone]

theorem not_required_of_mem_filled {f : Field σ} (h : f ∈ r.filled.fields) :
    f.absence ≠ .required := by
  obtain ⟨g, -, rfl⟩ := List.mem_map.mp h
  exact Absence.noConfusion

/-- In an object a field that may be null is read like one that is filled. -/
theorem ofNode_object_filled (h : ∀ f ∈ r.fields, f.absence ≠ .required) (nodes : MemberNodes) :
    r.filled.codec.ofNode (.object nodes) = r.codec.ofNode (.object nodes) := by
  simp only [codec, ofMembers_filled, complete_of_no_required h,
    complete_of_no_required fun _ => not_required_of_mem_filled]
  rfl

theorem ofValue_object_filled (h : ∀ f ∈ r.fields, f.absence ≠ .required) (ms : Members) :
    r.filled.codec.ofValue (.object ms) = r.codec.ofValue (.object ms) := by
  simp only [codec, ofEntries_filled, complete_of_no_required h,
    complete_of_no_required fun _ => not_required_of_mem_filled]
  rfl

theorem toValue_filled (r : Record σ) (s : σ) : r.filled.codec.toValue s = r.codec.toValue s := by
  simp only [codec, filled, List.map_map]
  rfl

/-- A record that may leave fields null is read from an object like the filled one. -/
theorem readsWritten_of_filled (h : ∀ f ∈ r.fields, f.absence ≠ .required) {depth : Nat}
    {ms : Members} {s : σ} (hread : r.filled.codec.ReadsWritten depth (.object ms) s) :
    r.codec.ReadsWritten depth (.object ms) s where
  whole := hread.whole
  depth_le := hread.depth_le
  value := by
    have hvalue := hread.value
    rw [Value.sorted_object] at hvalue ⊢
    rwa [ofValue_object_filled h] at hvalue
  agrees n hn := by
    intro x hx a
    have hagree := hread.agrees n hn x hx a
    have hsorted : x = (Value.object ms).sorted := Except.ok.inj (hx.symm.trans hn.value_eq)
    rw [Value.sorted_object] at hsorted
    subst hsorted
    cases hn with
    | object hspell => rwa [ofNode_object_filled h, ofValue_object_filled h] at hagree

end Record

end LedgerLookup.Json
