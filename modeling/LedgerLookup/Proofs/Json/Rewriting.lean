import LedgerLookup.Proofs.Json.Codec
import LedgerLookup.Proofs.Json.Layout
import LedgerLookup.Proofs.Json.Ordered

/-!
# Values that are written and read again

What a codec has read it reads again from what it writes for it, with the members in the order of
the fields as well as sorted by key.  For a record this comes down to its places.
-/

namespace LedgerLookup.Json

variable {α σ : Type}

namespace Codec

variable {c : Codec α} {a : α} {x : Value}

/-- A value of the type is read from what is written for it. -/
structure Rereads (c : Codec α) (a : α) : Prop where
  written : c.ofValue (c.toValue a) = .ok a
  sorted : c.ofValue (c.toValue a).sorted = .ok a

theorem rereads_none (c : Codec α) : c.option.Rereads none := ⟨rfl, rfl⟩

theorem sorted_ne_null (h : x ≠ .null) : x.sorted ≠ .null := by
  cases x with
  | null => exact absurd rfl h
  | object ms => rw [Value.sorted_object]; exact Value.noConfusion
  | array items => rw [Value.sorted_array]; exact Value.noConfusion
  | _ => exact h

/-- A value that is not written as null is not taken for a missing one. -/
theorem Rereads.some (h : c.Rereads a) (hnull : c.toValue a ≠ .null) :
    c.option.Rereads (some a) where
  written := option_ofValue_eq_ok_iff.mpr (.inr ⟨hnull, a, h.written, rfl⟩)
  sorted := option_ofValue_eq_ok_iff.mpr (.inr ⟨sorted_ne_null hnull, a, h.sorted, rfl⟩)

theorem list_ofValue_map {f : α → Value} {as : List α} (h : ∀ a ∈ as, c.ofValue (f a) = .ok a) :
    c.list.ofValue (.array (as.map f)) = .ok as := by
  induction as with
  | nil => rfl
  | cons a as ih =>
    obtain ⟨ha, has⟩ := List.forall_mem_cons.mp h
    exact list_ofValue_cons_eq_ok_iff.mpr ⟨a, as, ha, ih has, rfl⟩

theorem rereads_list {as : List α} (h : ∀ a ∈ as, c.Rereads a) : c.list.Rereads as where
  written := list_ofValue_map fun a ha => (h a ha).written
  sorted := by
    change c.list.ofValue (Value.array (as.map c.toValue)).sorted = _
    rw [Value.sorted_array, List.map_map]
    exact list_ofValue_map fun a ha => (h a ha).sorted

theorem mem_of_list_ofValue {items : List Value} {as : List α}
    (h : c.list.ofValue (.array items) = .ok as) (ha : a ∈ as) :
    ∃ y ∈ items, c.ofValue y = .ok a := by
  induction items generalizing as with
  | nil =>
    cases h
    cases ha
  | cons y items ih =>
    obtain ⟨b, rest, hb, hrest, rfl⟩ := list_ofValue_cons_eq_ok_iff.mp h
    rcases List.mem_cons.mp ha with rfl | ha
    · exact ⟨y, List.mem_cons_self, hb⟩
    · obtain ⟨z, hz, hread⟩ := ih hrest ha
      exact ⟨z, List.mem_cons_of_mem _ hz, hread⟩

/-- Only null is read as something that is written as null. -/
theorem Plain.toValue_ne_null (hc : c.Plain) (h : c.ofValue x = .ok a) (hx : x ≠ .null) :
    c.toValue a ≠ .null := by
  induction hc generalizing x with
  | string | bool | double | word w => exact Value.noConfusion
  | any =>
    cases h
    exact hx
  | option _ ih =>
    rcases option_ofValue_eq_ok_iff.mp h with ⟨rfl, -⟩ | ⟨hnull, a, ha, rfl⟩
    · exact absurd rfl hx
    · exact ih ha hnull

theorem rereads_word {w : Width} (i : Word w) : (word w).Rereads i := by
  have hread : (word w).ofValue ((word w).toValue i) = .ok i := by
    simp only [word, scalar, Number.ofWord, Value.form, Word.widen, Word.ofInt?_val]
  exact ⟨hread, hread⟩

/-- What a plain codec has read it reads again, if what it was read from is in order. -/
theorem Plain.rereads (hc : c.Plain) (hx : x.Ordered) (h : c.ofValue x = .ok a) : c.Rereads a := by
  induction hc generalizing x with
  | string | bool | double => exact ⟨rfl, rfl⟩
  | word w => exact rereads_word a
  | any =>
    cases h
    exact ⟨rfl, congrArg Except.ok hx.sorted_eq⟩
  | option hc ih =>
    rcases option_ofValue_eq_ok_iff.mp h with ⟨-, rfl⟩ | ⟨hnull, a, ha, rfl⟩
    · exact rereads_none _
    · exact (ih hx ha).some (hc.toValue_ne_null ha hnull)

end Codec

namespace Layout

variable {r : Record σ} (l : Layout r) {s : σ}

include l

theorem toValue_eq (s : σ) :
    r.codec.toValue s = .object (l.places.map fun p => (p.name, p.codec.toValue (p.get s))) := by
  simp only [Record.codec, l.fields_eq, List.map_map]
  rfl

theorem nodup_map_places (f : Place σ → Value) :
    ((l.places.map fun p => (p.name, f p)).map (·.1)).Nodup := by
  rw [List.map_map]
  exact l.nodup

/-- A structure is read from an object with a value for each of its places. -/
theorem ofValue_map_places {f : Place σ → Value}
    (h : ∀ p ∈ l.places, p.codec.ofValue (f p) = .ok (p.get s)) :
    r.codec.ofValue (.object (l.places.map fun p => (p.name, f p))) = .ok s := by
  refine (l.ofValue_object_eq_ok_iff (l.nodup_map_places f)).mpr fun p hp => ?_
  have hget : Members.get? p.name (l.places.map fun p => (p.name, f p)) = some (f p) :=
    (Members.get?_eq_some_iff (l.nodup_map_places f)).mpr (List.mem_map_of_mem hp)
  rw [hget]
  exact h p hp

/-- Sorting by key changes the order of different members only, which does not count. -/
theorem ofValue_sorted_object_iff {ms : Members} (hkeys : (ms.map (·.1)).Nodup) :
    r.codec.ofValue (Value.object ms).sorted = .ok s ↔
      r.codec.ofValue (.object ms.eachSorted) = .ok s := by
  have hsorted : (ms.eachSorted.map (·.1)).Nodup := by
    rw [Members.eachSorted, List.map_map]
    exact hkeys
  rw [Value.sorted_object]
  refine l.ofValue_object_congr (Members.ascending_gathered _).nodup hsorted fun p _ => ?_
  exact Members.get?_gathered_of_length_le_one (Members.length_filter_key_le_one hsorted p.name)

/-- **A record is read again if each of its places is.** -/
theorem rereads (h : ∀ p ∈ l.places, p.codec.Rereads (p.get s)) : r.codec.Rereads s where
  written := by
    rw [l.toValue_eq]
    exact l.ofValue_map_places fun p hp => (h p hp).written
  sorted := by
    rw [l.toValue_eq, l.ofValue_sorted_object_iff (l.nodup_map_places _), Members.eachSorted,
      List.map_map]
    exact l.ofValue_map_places fun p hp => (h p hp).sorted

end Layout

end LedgerLookup.Json
