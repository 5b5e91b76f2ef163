import LedgerLookup.Environment
import LedgerLookup.Proofs.Config.Variables
import LedgerLookup.Proofs.Dotenv
import LedgerLookup.Proofs.Results

/-!
# What an environment says

An environment says what its process sets, and of the other variables what its file sets.  A
well-formed line of the file says something wherever it stands, but loading stops at the first
malformed one: what strict loading makes of an environment is what it says, unless it is said too
late.
-/

namespace LedgerLookup.Environment

variable {e : Environment} {key raw : String}

/-! ### Variables of the process and of the file -/

/-- What the process sets stands, whatever the file says. -/
theorem get?_of_process (h : e.process? key = some raw) : e.get? key = some raw :=
  Dotenv.load_of_set h _

/-- The environment says that the variable has the value. -/
inductive Says (e : Environment) (key raw : String) : Prop where
  /-- The process sets it so. -/
  | process (h : e.process? key = some raw)
  /-- The process leaves it unset, and the first well-formed line of the file that assigns it, be
  that after malformed lines, sets it so. -/
  | file (hunset : e.process? key = none)
      (h : Dotenv.FirstGives e.process? (Dotenv.lines e.file) key raw)

/-- The process leaves the variable unset, and the file assigns it only after a malformed line. -/
structure CutOff (e : Environment) (key : String) : Prop where
  unset : e.process? key = none
  file : Dotenv.CutOff (Dotenv.lines e.file) key

theorem get?_of_said (h : e.Says key raw) (hcut : ¬e.CutOff key) : e.get? key = some raw := by
  cases h with
  | process h => exact get?_of_process h
  | file hunset h => exact Dotenv.load_of_firstGives hunset h fun hfile => hcut ⟨hunset, hfile⟩

theorem get?_of_not_said (h : ∀ raw, ¬e.Says key raw) : e.get? key = none := by
  have hunset : e.process? key = none :=
    Option.eq_none_iff_forall_ne_some.mpr fun raw hraw => h raw (.process hraw)
  have hload := Dotenv.load_of_not_firstGives fun raw hraw => h raw (.file hunset hraw)
  exact hload.trans hunset

theorem get?_of_cutOff (h : e.CutOff key) : e.get? key = none :=
  (Dotenv.load_of_cutOff h.file).trans h.unset

/-! ### Strict loading -/

/-- The configuration has the number that the environment says for the setting, and the standard
one if it says nothing. -/
structure Heeds (e : Environment) (c : Config) (setting : Setting) : Prop where
  said : ∀ raw, e.Says setting.key raw →
    ∃ n : Nat, WritesNumber raw n ∧ c.number? setting = some (n : Int)
  unsaid : (∀ raw, ¬e.Says setting.key raw) →
    c.number? setting = Config.standard.number? setting

/-- **Strict loading heeds every number that the environment says**, except those that the file
says after a malformed line only.  These are lost without a failure. -/
theorem numbers_heeded_unless_cut_off {c : Config} {setting : Setting} {largest : Nat}
    (hload : e.configStrict = .ok c) (hlargest : setting.largest? = some largest) :
    (¬e.CutOff setting.key → e.Heeds c setting) ∧
      (e.CutOff setting.key → c.number? setting = Config.standard.number? setting) := by
  constructor
  · intro hcut
    constructor
    · intro raw hsaid
      have hraw := get?_of_said hsaid hcut
      have haccepted := Config.exists_loadStrict_iff.mp ⟨c, hload⟩
      obtain ⟨n, hn, -⟩ := haccepted setting largest raw hlargest hraw
      exact ⟨n, hn, Config.number?_of_writesNumber hload hlargest hraw hn⟩
    · intro hsaid
      exact Config.number?_of_unset hload hlargest (get?_of_not_said hsaid)
  · intro hcut
    exact Config.number?_of_unset hload hlargest (get?_of_cutOff hcut)

/-- The process sets one port, and the file says one in time and one too late. -/
def halfHeeded : Environment where
  vars := [("EXPLORER_PORT_MAIN", "9".toUTF8.toList)]
  file := "EXPLORER_PORT_DEV=\"1${EXPLORER_PORT_MAIN}\"\nbad line\nEXPLORER_PORT_TEST=7\n"

theorem numbers_heeded_unless_cut_off_half :
    ∃ c, halfHeeded.configStrict = .ok c ∧ halfHeeded.Heeds c (.port .main) ∧
      halfHeeded.Heeds c (.port .dev) ∧
      c.number? (.port .test) = Config.standard.number? (.port .test) := by
  have hok : halfHeeded.configStrict.toOption.isSome = true := by decide +kernel
  obtain ⟨c, hc⟩ := Option.isSome_iff_exists.mp hok
  have hload : halfHeeded.configStrict = .ok c := toOption_eq_some_iff.mp hc
  have hlines : Dotenv.lines halfHeeded.file =
      [.assign "EXPLORER_PORT_DEV" [.char '1', .reference "EXPLORER_PORT_MAIN"]] ++
        .malformed :: [.assign "EXPLORER_PORT_TEST" [.char '7']] := by
    decide +kernel
  refine ⟨c, hload, ?_, ?_, ?_⟩
  · refine (numbers_heeded_unless_cut_off hload rfl).1 fun hcut => ?_
    exact absurd hcut.unset (by decide +kernel)
  · refine (numbers_heeded_unless_cut_off hload rfl).1 fun hcut => ?_
    exact absurd (get?_of_cutOff hcut) (by decide +kernel)
  · refine (numbers_heeded_unless_cut_off hload rfl).2 ⟨by decide +kernel, ?_⟩
    exact ⟨_, _, hlines, by decide +kernel, _, List.mem_cons_self, by decide +kernel⟩

/-- The process sets nothing, and the file says a port on the line after a malformed one. -/
def lateInFile : Environment where
  file := "EXPLORER_PORT_TEST=5\nbad line\nEXPLORER_PORT_MAIN=7\n"

/-- That port is then the standard one. -/
theorem port_lost_after_malformed_line :
    ∃ c, lateInFile.configStrict = .ok c ∧ ¬lateInFile.Heeds c (.port .main) := by
  have hmain : lateInFile.configStrict.toOption.map (·.ports.main.val) = some 16186 := by
    decide +kernel
  obtain ⟨c, hc, hnumber⟩ := Option.map_eq_some_iff.mp hmain
  refine ⟨c, toOption_eq_some_iff.mp hc, fun hheeds => ?_⟩
  have hlines : Dotenv.lines lateInFile.file =
      [.assign "EXPLORER_PORT_TEST" [.char '5'], .malformed] ++
        .assign "EXPLORER_PORT_MAIN" [.char '7'] :: [] := by
    decide +kernel
  have hsaid : lateInFile.Says (Setting.port .main).key "7" :=
    .file rfl ⟨_, _, _, hlines, by decide +kernel, by decide +kernel⟩
  obtain ⟨n, hn, hread⟩ := hheeds.said "7" hsaid
  have hseven : n = 7 := hn.unique (writesNumber_iff.mpr (by decide +kernel))
  have hport : (16186 : Int) = n := by
    rw [← hnumber]
    exact Option.some.inj hread
  omega

end LedgerLookup.Environment
