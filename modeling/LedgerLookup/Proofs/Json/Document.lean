import LedgerLookup.Json.Reader
import LedgerLookup.Proofs.Results

/-!
# Values of documents

When a text has a value, and when that value is an object: the tree of the text is then an object
whose members can be read, and nothing follows it.
-/

namespace LedgerLookup.Json

theorem Document.finish_eq_ok_iff {α : Type} {d : Document} {r : Except Error α} {a : α} :
    d.finish r = .ok a ↔ r = .ok a ∧ d.trailing = false := by
  unfold Document.finish
  rw [bind_eq_ok_iff]
  constructor
  · rintro ⟨b, rfl, hb⟩
    cases ht : d.trailing with
    | true => simp [ht, throw, throwThe, MonadExceptOf.throw] at hb
    | false => simpa [ht, pure, Except.pure] using hb
  · rintro ⟨rfl, ht⟩
    exact ⟨a, rfl, by simp [ht, pure, Except.pure]⟩

namespace Node

/-- Only an object has the value of an object. -/
theorem value_eq_object_iff {n : Node} {ms : Members} :
    n.value = .ok (.object ms) ↔ ∃ nodes, n = .object nodes ∧ memberValues nodes [] = .ok ms := by
  cases n with
  | object nodes => simp [value, map_eq_ok_iff]
  | null => simp [value]
  | bool b => simp [value]
  | numeral m => simp [value, map_eq_ok_iff]
  | literal units => simp [value, map_eq_ok_iff]
  | array items => simp [value, map_eq_ok_iff]
  | flawed f => simp [value]

end Node

/-- A text is that of an object exactly when its tree is one that can be read, and nothing
follows. -/
theorem Value.parse_eq_object_iff {s : String} {ms : Members} :
    Value.parse s = .ok (.object ms) ↔
      (∃ nodes, (Document.ofString s).root = .object nodes ∧
        Node.memberValues nodes [] = .ok ms) ∧ (Document.ofString s).trailing = false := by
  rw [Value.parse, Document.value, Document.finish_eq_ok_iff, Node.value_eq_object_iff]

end LedgerLookup.Json
