import LedgerLookup.Dotenv
import Mathlib.Data.List.Basic

/-!
# Loading a file of variables

What a run over the lines of a file leaves of the variables.  One that can be read keeps its value,
whatever the lines say.  Any other gets its value from the first line that assigns it, unless a
malformed line stands before: what follows that line does not count.
-/

namespace LedgerLookup

namespace Lookup

variable {vars : Lookup} {key k raw : String}

theorem setDefault_of_set (h : vars k = some raw) (key value : String) :
    vars.setDefault key value k = some raw := by
  unfold setDefault
  split_ifs
  · rw [h, Option.some_or]
  · exact h

theorem setDefault_of_ne (h : k ≠ key) (value : String) :
    vars.setDefault key value k = vars k :=
  if_neg h

theorem setDefault_of_unset (h : vars key = none) (value : String) :
    vars.setDefault key value key = some value := by
  rw [setDefault, if_pos rfl, h, Option.none_or]

end Lookup

namespace Dotenv

/-- The value that a line assigns to a variable, if it is an assignment to that one. -/
def Line.value? (key : String) : Line → Option (List Part)
  | .nothing => none
  | .assign k value => if k = key then some value else none
  | .malformed => none

theorem Line.value?_assign_eq_none_iff {key k : String} {value : List Part} :
    (Line.assign k value).value? key = none ↔ key ≠ k := by
  rw [value?, ite_eq_right_iff]
  constructor
  · intro h hk
    cases h hk.symm
  · intro h hk
    exact absurd hk.symm h

variable {vars : Lookup} {key raw : String} {value : List Part} {before after lines : List Line}

/-! ### Runs -/

/-- A variable that is set keeps its value. -/
theorem load_of_set (h : vars key = some raw) (lines : List Line) :
    load vars lines key = some raw := by
  induction lines generalizing vars with
  | nil => exact h
  | cons line rest ih =>
    cases line with
    | nothing => exact ih h
    | assign k value => exact ih (Lookup.setDefault_of_set h k _)
    | malformed => exact h

theorem load_of_not_assigned (h : ∀ line ∈ lines, line.value? key = none) :
    load vars lines key = vars key := by
  induction lines generalizing vars with
  | nil => rfl
  | cons line rest ih =>
    obtain ⟨hline, hrest⟩ := List.forall_mem_cons.mp h
    cases line with
    | nothing => exact ih hrest
    | assign k value =>
      have hne := Line.value?_assign_eq_none_iff.mp hline
      exact (ih hrest).trans (Lookup.setDefault_of_ne hne _)
    | malformed => rfl

theorem load_append (h : Line.malformed ∉ before) :
    load vars (before ++ after) = load (load vars before) after := by
  induction before generalizing vars with
  | nil => rfl
  | cons line rest ih =>
    obtain ⟨hline, hrest⟩ := not_or.mp (mt List.mem_cons.mpr h)
    cases line with
    | nothing => exact ih hrest
    | assign k value => exact ih hrest
    | malformed => exact absurd rfl hline

/-- What stands after a malformed line does not count. -/
theorem load_append_malformed :
    load vars (before ++ .malformed :: after) = load vars before := by
  induction before generalizing vars with
  | nil => rfl
  | cons line rest ih =>
    cases line with
    | nothing => exact ih
    | assign k value => exact ih
    -- both runs end here, so nothing is asked of the lines before
    | malformed => rfl

/-! ### The first assignment -/

theorem not_assigned_or_first (key : String) (lines : List Line) :
    (∀ line ∈ lines, line.value? key = none) ∨
      ∃ before value after, lines = before ++ .assign key value :: after ∧
        ∀ line ∈ before, line.value? key = none := by
  induction lines with
  | nil => exact .inl fun _ h => nomatch h
  | cons line rest ih =>
    cases hline : line.value? key with
    | some value =>
      refine .inr ⟨[], value, rest, ?_, fun _ h => nomatch h⟩
      cases line with
      | nothing => cases hline
      | assign k v =>
        rw [Line.value?, Option.ite_none_right_eq_some] at hline
        obtain ⟨rfl, hv⟩ := hline
        rw [Option.some.inj hv]
        rfl
      | malformed => cases hline
    | none =>
      rcases ih with hrest | ⟨before, value, after, rfl, hbefore⟩
      · exact .inl (List.forall_mem_cons.mpr ⟨hline, hrest⟩)
      · exact .inr ⟨line :: before, value, after, rfl, List.forall_mem_cons.mpr ⟨hline, hbefore⟩⟩

/-- A variable that is unset gets the value of the first line that assigns it. -/
theorem load_of_first (hunset : vars key = none) (hwell : Line.malformed ∉ before)
    (hfirst : ∀ line ∈ before, line.value? key = none) :
    load vars (before ++ .assign key value :: after) key =
      some (expand (load vars before) value) := by
  rw [load_append hwell, load]
  apply load_of_set
  apply Lookup.setDefault_of_unset
  rw [load_of_not_assigned hfirst, hunset]

/-- A reference sees the lines before its own, and a second assignment does not count. -/
example :
    load (fun _ => none) (Dotenv.lines "A=1\nB=2$A\nA=3\nexport C=\"${B}\"$A # all\n") "C" =
      some "211" := by
  decide +kernel

/-! ### Assignments that come too late -/

/-- The lines assign the variable, but not before the first malformed one. -/
def CutOff (lines : List Line) (key : String) : Prop :=
  ∃ before after, lines = before ++ .malformed :: after ∧
    (∀ line ∈ before, line.value? key = none) ∧ ∃ line ∈ after, line.value? key ≠ none

theorem load_of_cutOff (h : CutOff lines key) : load vars lines key = vars key := by
  obtain ⟨before, after, rfl, hbefore, -⟩ := h
  rw [load_append_malformed, load_of_not_assigned hbefore]

theorem cutOff_of_mem (hmem : Line.malformed ∈ before)
    (hfirst : ∀ line ∈ before, line.value? key = none) :
    CutOff (before ++ .assign key value :: after) key := by
  obtain ⟨front, back, rfl, -⟩ := List.eq_append_cons_of_mem hmem
  refine ⟨front, back ++ .assign key value :: after, ?_, ?_, .assign key value, ?_, ?_⟩
  · rw [List.append_assoc, List.cons_append]
  · exact fun line hline => hfirst line (List.mem_append_left _ hline)
  · exact List.mem_append_right _ List.mem_cons_self
  · exact fun hnone => Line.value?_assign_eq_none_iff.mp hnone rfl

/-- A line in front of every malformed one gives the variable the value. -/
def GivesInTime (vars : Lookup) (lines : List Line) (key raw : String) : Prop :=
  ∃ before value after, lines = before ++ .assign key value :: after ∧
    Line.malformed ∉ before ∧ expand (load vars before) value = raw

theorem givesInTime_of_load (hunset : vars key = none) (h : load vars lines key = some raw) :
    GivesInTime vars lines key raw := by
  rcases not_assigned_or_first key lines with hnone | ⟨before, value, after, rfl, hbefore⟩
  · rw [load_of_not_assigned hnone, hunset] at h
    cases h
  · have hwell : Line.malformed ∉ before := by
      intro hmem
      rw [load_of_cutOff (cutOff_of_mem hmem hbefore), hunset] at h
      cases h
    rw [load_of_first hunset hwell hbefore] at h
    exact ⟨before, value, after, rfl, hwell, Option.some.inj h⟩

/-! ### Malformed lines passed over -/

/-- The lines that are not malformed. -/
def wellFormed (lines : List Line) : List Line :=
  lines.filter (· ≠ .malformed)

/-- The first of all well-formed lines that assign the variable gives it the value, wherever that
line stands.  It refers to what the well-formed lines before it leave. -/
def FirstGives (vars : Lookup) (lines : List Line) (key raw : String) : Prop :=
  ∃ before value after, lines = before ++ .assign key value :: after ∧
    (∀ line ∈ before, line.value? key = none) ∧ expand (load vars (wellFormed before)) value = raw

theorem wellFormed_of_not_mem (h : Line.malformed ∉ lines) : wellFormed lines = lines := by
  rw [wellFormed, List.filter_eq_self]
  intro line hline
  exact decide_eq_true fun heq => h (heq ▸ hline)

theorem load_of_firstGives (hunset : vars key = none) (h : FirstGives vars lines key raw)
    (hcut : ¬CutOff lines key) : load vars lines key = some raw := by
  obtain ⟨before, value, after, rfl, hbefore, hraw⟩ := h
  have hwell : Line.malformed ∉ before := fun hmem => hcut (cutOff_of_mem hmem hbefore)
  rw [wellFormed_of_not_mem hwell] at hraw
  rw [load_of_first hunset hwell hbefore, hraw]

theorem load_of_not_firstGives (h : ∀ raw, ¬FirstGives vars lines key raw) :
    load vars lines key = vars key := by
  rcases not_assigned_or_first key lines with hnone | ⟨before, value, after, rfl, hbefore⟩
  · exact load_of_not_assigned hnone
  · exact absurd ⟨before, value, after, rfl, hbefore, rfl⟩ (h _)

end Dotenv

end LedgerLookup
