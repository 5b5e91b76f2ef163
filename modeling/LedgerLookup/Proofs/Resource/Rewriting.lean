import LedgerLookup.Proofs.Json.Rewriting
import LedgerLookup.Proofs.Resource.Reading

/-!
# Views that are written again

A view is written as an object with all its fields, and so are the views within it.  Whatever it was
read from, an object with fields missing, with foreign members, or an array, it is read again from
what is written for it.
-/

namespace LedgerLookup.View

open Json (Codec Members Value)

variable {α : Type} {k : Content} {c : Codec α} {v : View} {x : Value} {a : α}

/-! ### What is written -/

/-- Every view that stands in the value has all its fields there, each once. -/
inductive Content.Complete : Content → Value → Prop
  | plain (x : Value) : Complete .plain x
  | null (k : Content) : Complete (.option k) .null
  | some {k : Content} {x : Value} (h : Complete k x) : Complete (.option k) x
  | list {k : Content} {items : List Value} (h : ∀ x ∈ items, Complete k x) :
      Complete (.list k) (.array items)
  | view {v : View} {ms : Members} (hkeys : (ms.map (·.1)).Perm (v.record.fields.map (·.name)))
      (h : ∀ m ∈ ms, Complete (v.content m.1) m.2) : Complete (.view v) (.object ms)

theorem Content.Codes.complete_toValue (hc : k.Codes c) : ∀ a, k.Complete (c.toValue a) := by
  induction hc with
  | plain _ => exact fun a => .plain _
  | option _ ih =>
    intro o
    cases o with
    | none => exact .null _
    | some a => exact .some (ih a)
  | list _ ih => exact fun as => .list (List.forall_mem_map.mpr fun a _ => ih a)
  | view v _ ih =>
    intro s
    rw [v.layout.toValue_eq]
    refine .view ?_ (List.forall_mem_map.mpr fun p hp => ih p hp (p.get s))
    rw [v.layout.fields_eq, List.map_map, List.map_map]
    exact List.Perm.refl _

theorem names_nodup (v : View) : (v.record.fields.map (·.name)).Nodup := by
  rw [v.layout.fields_eq, List.map_map]
  exact v.layout.nodup

/-- Sorting leaves all fields where they are needed. -/
theorem Content.Complete.sorted (h : k.Complete x) : k.Complete x.sorted := by
  induction h with
  | plain x => exact .plain _
  | null k => exact .null k
  | some _ ih => exact .some ih
  | list _ ih =>
    rw [Value.sorted_array]
    exact .list (List.forall_mem_map.mpr ih)
  | @view v ms hkeys _ ih =>
    rw [Value.sorted_object]
    have heach : ms.eachSorted.map (·.1) = ms.map (·.1) := by
      rw [Members.eachSorted, List.map_map]
      rfl
    have hnodup : (ms.eachSorted.map (·.1)).Nodup := heach ▸ hkeys.symm.nodup v.names_nodup
    refine .view ?_ fun m hm => ?_
    · exact ((Members.gathered_perm hnodup).map (·.1)).trans (heach ▸ hkeys)
    · obtain ⟨m', hm', rfl⟩ := List.mem_map.mp (Members.mem_of_mem_gathered hm)
      exact ih m' hm'

/-! ### What is read again -/

/-- An empty value is read from some value. -/
theorem Blank.exists_value (h : Blank c a) : ∃ y : Value, y.Ordered ∧ c.ofValue y = .ok a := by
  cases h with
  | string => exact ⟨.string "", .string _, rfl⟩
  | bool => exact ⟨.bool false, .bool _, rfl⟩
  | double => exact ⟨.number (.double .zero), .number _, rfl⟩
  | word w => exact ⟨_, .number _, (Codec.rereads_word .zero).written⟩
  | option c => exact ⟨.null, .null, rfl⟩
  | list c => exact ⟨.array [], .array fun _ h => absurd h List.not_mem_nil, rfl⟩
  | view v =>
    exact ⟨.object [], .object List.Pairwise.nil fun _ h => absurd h List.not_mem_nil,
      v.layout.codec_ofValue_object_eq_ok_iff.mpr ⟨[], rfl⟩⟩

/-- What a view has at a place was read from some value, if only from the one for what is not
written. -/
theorem exists_value_at {s : v.Carrier} (hx : x.Ordered) (h : v.record.codec.ofValue x = .ok s)
    {p : Json.Place v.Carrier} (hp : p ∈ v.places) :
    ∃ y : Value, y.Ordered ∧ p.codec.ofValue y = .ok (p.get s) := by
  obtain ⟨ms, hms, hread⟩ := v.layout.ofValue_eq_ok_iff.mp h
  have hparts : (ms.map (·.1)).Nodup ∧ ∀ m ∈ ms, m.2.Ordered := by
    cases hx with
    | object hkeys hvalues =>
      cases hms
      exact ⟨hkeys.nodup, hvalues⟩
    | array hitems =>
      exact ⟨v.layout.nodup_of_members?_array hms, fun m hm =>
        hitems _ (v.layout.mem_of_members?_array hms hm)⟩
    | _ => cases hms
  have htakes := (v.layout.ofValue_object_eq_ok_iff hparts.1).mp hread p hp
  cases hget : Members.get? p.name ms with
  | none =>
    rw [hget] at htakes
    have hempty : p.get s = p.get v.record.empty := htakes
    rw [hempty]
    exact (v.blank_get_empty p hp).exists_value
  | some y =>
    rw [hget] at htakes
    exact ⟨y, hparts.2 _ (Members.mem_of_get? hget), htakes⟩

/-- Only null is read as something that is written as null. -/
theorem Content.Codes.toValue_ne_null (hc : k.Codes c) (h : c.ofValue x = .ok a) (hx : x ≠ .null) :
    c.toValue a ≠ .null := by
  induction hc generalizing x with
  | plain hc => exact hc.toValue_ne_null h hx
  | option _ ih =>
    rcases Codec.option_ofValue_eq_ok_iff.mp h with ⟨rfl, -⟩ | ⟨hnull, a, ha, rfl⟩
    · exact absurd rfl hx
    · exact ih ha hnull
  | list _ _ | view v _ _ => exact Value.noConfusion

/-- **What was read at a place is read again from what is written for it.** -/
theorem Content.Codes.rereads (hc : k.Codes c) (hx : x.Ordered) (h : c.ofValue x = .ok a) :
    c.Rereads a := by
  induction hc generalizing x with
  | plain hc => exact hc.rereads hx h
  | option hc ih =>
    rcases Codec.option_ofValue_eq_ok_iff.mp h with ⟨-, rfl⟩ | ⟨hnull, a, ha, rfl⟩
    · exact Codec.rereads_none _
    · exact (ih hx ha).some (hc.toValue_ne_null ha hnull)
  | list _ ih =>
    cases hx with
    | array hitems =>
      refine Codec.rereads_list fun b hb => ?_
      obtain ⟨y, hy, hread⟩ := Codec.mem_of_list_ofValue h hb
      exact ih (hitems y hy) hread
    | _ => cases h
  | view v _ ih =>
    refine v.layout.rereads fun p hp => ?_
    obtain ⟨y, hy, hread⟩ := exists_value_at hx h hp
    exact ih p hp hy hread

/-- A reason for a rejection is never null: a null is read as no reason. -/
theorem rejectionReason_ne_null {t : Transaction} (hx : x.Ordered)
    (h : transaction.record.codec.ofValue x = .ok t) : t.rejectionReason ≠ some .null := by
  let p : Json.Place Transaction :=
    ⟨"rejection_reason", .option .any, (·.rejectionReason), ({ · with rejectionReason := · })⟩
  have hp : p ∈ transaction.places := List.mem_of_getElem? (i := 10) rfl
  obtain ⟨y, -, hread⟩ := exists_value_at hx h hp
  intro hnull
  rcases Codec.option_ofValue_eq_ok_iff.mp hread with ⟨-, hnone⟩ | ⟨hy, b, hb, hsome⟩
  · cases hnone.trans hnull
  · cases hb
    exact hy (Option.some.inj (hsome.trans hnull))

/-- **A view that was read is read again from what is written for it.**  Whatever the value was, the
view is written as an object with every field of it, as are the views within it, and is read from
that object as it was, from the members in the order of the fields as well as from the value, which
has them sorted.  The reason for a rejection is never a null. -/
theorem read_again_from_written (v : View) {x : Value} {s : v.Carrier} (hx : x.sorted = x)
    (h : v.record.codec.ofValue x = .ok s) :
    (Content.view v).Complete (v.record.codec.toValue s) ∧
    (Content.view v).Complete (v.record.codec.toValue s).sorted ∧
    v.record.codec.ofValue (v.record.codec.toValue s) = .ok s ∧
    v.record.codec.ofValue (v.record.codec.toValue s).sorted = .ok s ∧
    (∀ kind, (Resolved.found kind (v.record.codec.toValue s).sorted).decode? v.record.codec =
      some (.ok s)) ∧
    ∀ (y : Value) (t : Transaction), y.sorted = y →
      transaction.record.codec.ofValue y = .ok t → t.rejectionReason ≠ some .null := by
  have hcomplete := v.codes.complete_toValue s
  have hagain := v.codes.rereads (Value.sorted_eq_iff.mp hx) h
  exact ⟨hcomplete, hcomplete.sorted, hagain.written, hagain.sorted,
    fun _ => congrArg some hagain.sorted, fun y t hy ht =>
      rejectionReason_ne_null (Value.sorted_eq_iff.mp hy) ht⟩

/-- A transaction in part: an integer for a double, an array for a view within it, a null for a
reason, and a foreign member. -/
def partialTransaction : Value :=
  .object [("confirmation_score", .number (.whole ⟨5, by decide, by decide⟩)),
    ("info", .array [.string "ff"]), ("rejection_reason", .null), ("zone", .bool true)]

/-- What it is read as. -/
def readTransaction : Transaction where
  info := { hash := "ff" }
  confirmationScore := .ofInt 5

theorem read_again_from_written_partial :
    partialTransaction.sorted = partialTransaction ∧
      transaction.record.codec.ofValue partialTransaction = .ok readTransaction ∧
      (Content.view transaction).Complete
        (transaction.record.codec.toValue readTransaction).sorted ∧
      transaction.record.codec.ofValue (transaction.record.codec.toValue readTransaction).sorted =
        .ok readTransaction ∧
      readTransaction.rejectionReason ≠ some .null := by
  obtain ⟨-, hcomplete, -, hread, -, hreason⟩ :=
    read_again_from_written transaction (x := partialTransaction) (s := readTransaction) rfl rfl
  exact ⟨rfl, rfl, hcomplete, hread, hreason partialTransaction readTransaction rfl rfl⟩

end LedgerLookup.View
