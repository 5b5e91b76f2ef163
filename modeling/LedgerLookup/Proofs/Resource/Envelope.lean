import LedgerLookup.Proofs.Json.Document
import LedgerLookup.Resource.Envelope

/-!
# What an envelope is read from

A body is read as an envelope exactly when it is the text of one JSON object, and the envelope is
then that of the object's members.  Nothing is found in it exactly when every member that could
hold a resource is null or missing.
-/

namespace LedgerLookup.Envelope

open Json (Members Value Node)

/-! ### Reading -/

/-- Only an object is read as an envelope. -/
theorem ofNode_eq_ok_iff {n : Node} {e : Envelope} :
    codec.ofNode n = .ok e ↔
      ∃ nodes ms, n = .object nodes ∧ Node.memberValues nodes [] = .ok ms ∧ ofMembers ms = e := by
  cases n with
  | object nodes => simp [codec, map_eq_ok_iff]
  | null => simp [codec, Json.refuse, bind_eq_ok_iff]
  | bool b => simp [codec, Json.refuse, bind_eq_ok_iff]
  | numeral m => simp [codec, Json.refuse, bind_eq_ok_iff]
  | literal units => simp [codec, Json.refuse, bind_eq_ok_iff]
  | array items => simp [codec, Json.refuse, bind_eq_ok_iff]
  | flawed f => simp [codec, Json.refuse, bind_eq_ok_iff]

theorem fromText_eq_ok_iff {s : String} {e : Envelope} :
    codec.fromText s = .ok e ↔ ∃ ms, Value.parse s = .ok (.object ms) ∧ ofMembers ms = e := by
  rw [Json.Codec.fromText, Json.Codec.ofDocument, Json.Document.finish_eq_ok_iff, ofNode_eq_ok_iff]
  constructor
  · rintro ⟨⟨nodes, ms, hroot, hms, he⟩, ht⟩
    exact ⟨ms, Value.parse_eq_object_iff.mpr ⟨⟨nodes, hroot, hms⟩, ht⟩, he⟩
  · rintro ⟨ms, hparse, he⟩
    obtain ⟨⟨nodes, hroot, hms⟩, ht⟩ := Value.parse_eq_object_iff.mp hparse
    exact ⟨⟨nodes, ms, hroot, hms, he⟩, ht⟩

/-! ### Classifying -/

theorem mem_precedence (k : ResourceKind) : k ∈ ResourceKind.precedence := by
  cases k <;> decide

@[simp] theorem payload?_ofMembers (ms : Members) (k : ResourceKind) :
    (ofMembers ms).payload? k = held? ms k := by
  cases k <;> rfl

theorem held?_eq_none_iff {ms : Members} {k : ResourceKind} :
    held? ms k = none ↔
      Members.get? k.key ms = none ∨ Members.get? k.key ms = some .null := by
  unfold held?
  cases hget : Members.get? k.key ms with
  | none => simp
  | some v => cases v <;> simp [Option.filter, Value.isNull]

/-- An identifier is unknown exactly when no kind has a resource. -/
theorem classify_eq_notFound_iff {e : Envelope} {identifier x : String} :
    e.classify identifier = .notFound x ↔ x = identifier ∧ ∀ k, e.payload? k = none := by
  unfold classify
  cases hfind : ResourceKind.precedence.findSome? fun k => (e.payload? k).map (k, ·) with
  | none =>
    have hnone : ∀ k, e.payload? k = none := fun k => by
      simpa using List.findSome?_eq_none_iff.mp hfind k (mem_precedence k)
    simp [hnone, eq_comm]
  | some found =>
    obtain ⟨k, -, hk⟩ := List.exists_of_findSome?_eq_some hfind
    obtain ⟨v, hv, -⟩ := Option.map_eq_some_iff.mp hk
    simp only [reduceCtorEq, false_iff, not_and, not_forall]
    exact fun _ => ⟨k, by simp [hv]⟩

end LedgerLookup.Envelope
