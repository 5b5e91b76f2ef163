import LedgerLookup.Json.Codec
import LedgerLookup.Proofs.Results
import Mathlib.Tactic.Common

/-!
# What codecs read from values

When an optional value and a list are read from a value, and which codecs are plain: they look at
the outermost form of a value only, take any value, or let such a value be null.
-/

namespace LedgerLookup.Json.Codec

variable {α : Type} {c : Codec α} {x : Value}

/-- The codecs of scalars and of any value, also where it may be null. -/
inductive Plain : {α : Type} → Codec α → Prop
  | string : Plain .string
  | bool : Plain .bool
  | double : Plain .double
  | word (w : Width) : Plain (.word w)
  | any : Plain .any
  | option {α : Type} {c : Codec α} (h : Plain c) : Plain c.option

/-- Null is no value, and everything else is what the codec makes of it. -/
theorem option_ofValue_eq_ok_iff {o : Option α} :
    c.option.ofValue x = .ok o ↔
      (x = .null ∧ none = o) ∨ (x ≠ .null ∧ ∃ a, c.ofValue x = .ok a ∧ some a = o) := by
  cases x <;> simp [Codec.option, map_eq_ok_iff]

/-- A list is read item by item. -/
theorem list_ofValue_cons_eq_ok_iff {xs : List Value} {as : List α} :
    c.list.ofValue (.array (x :: xs)) = .ok as ↔
      ∃ a rest, c.ofValue x = .ok a ∧ c.list.ofValue (.array xs) = .ok rest ∧ a :: rest = as := by
  simp only [Codec.list, List.mapM_cons, bind_eq_ok_iff, pure, Except.pure, Except.ok.injEq]
  exact ⟨fun ⟨a, ha, rest, hrest, h⟩ => ⟨a, rest, ha, hrest, h⟩,
    fun ⟨a, rest, ha, hrest, h⟩ => ⟨a, ha, rest, hrest, h⟩⟩

end LedgerLookup.Json.Codec
