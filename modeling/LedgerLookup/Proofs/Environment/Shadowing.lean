import LedgerLookup.Proofs.Environment.Heeding
import LedgerLookup.Proofs.Json.Fields

/-!
# Variables of the process before those of the file

A setting depends on its own variable and on no other, and a variable that the process sets does
not depend on the file.  So the file has no say in a setting that the process makes, and one that
is malformed does no harm but to end itself.
-/

namespace LedgerLookup

/-! ### Settings one at a time -/

namespace Config

variable {vars vars' : Lookup} {setting : Setting}

/-- Two configurations have the same value for a setting. -/
structure AgreeAt (setting : Setting) (c c' : Config) : Prop where
  number : c.number? setting = c'.number? setting
  url : c.url? setting = c'.url? setting

theorem eq_of_agreeAt {c c' : Config} (h : ∀ setting, AgreeAt setting c c') : c = c' := by
  apply ext_number
  · exact Option.some.inj (h .baseUrl).url
  · exact Option.some.inj (h .oracleUrl).url
  · exact fun setting => (h setting).number

theorem agreeAt_ofVars (h : vars setting.key = vars' setting.key) :
    AgreeAt setting (ofVars vars) (ofVars vars') := by
  have hvalue : ∀ w, value? (w := w) vars setting = value? vars' setting := by
    intro w
    rw [value?, value?, h]
  have hurl : ∀ default, urlSetting vars setting default = urlSetting vars' setting default := by
    intro default
    rw [urlSetting, urlSetting, h]
  cases setting with
  | port d => cases d <;> exact ⟨by simp [number?, ofVars, Ports.get, hvalue], rfl⟩
  | requestTimeout => exact ⟨by simp [number?, ofVars, hvalue], rfl⟩
  | baseUrl => exact ⟨rfl, congrArg some (hurl _)⟩
  | oracleUrl => exact ⟨rfl, congrArg some (hurl _)⟩

theorem filter_bad? (vars : Lookup) (setting other : Setting) :
    (bad? vars other).filter (·.setting = setting) =
      if other = setting then bad? vars setting else none := by
  cases hbad : bad? vars other with
  | none =>
    split_ifs with h
    · rw [← h, hbad]
      rfl
    · rfl
  | some bad =>
    obtain ⟨rfl, -⟩ := bad?_eq_some_iff.mp hbad
    rw [Option.filter_some]
    split_ifs with hsame h h
    · rw [← h, hbad]
    · exact absurd (of_decide_eq_true hsame) h
    · exact absurd (decide_eq_true h) hsame
    · rfl

/-- The warnings about a setting come from its own variable. -/
theorem filter_warnings (vars : Lookup) (setting : Setting) :
    (loadLenient vars).2.filter (·.setting = setting) =
      (Setting.numeric.filterMap fun other =>
        if other = setting then bad? vars setting else none).map warning := by
  rw [loadLenient_eq, List.filter_map]
  show ((badSettings vars).filter (·.setting = setting)).map warning = _
  rw [badSettings, List.filter_filterMap]
  simp only [filter_bad?]

theorem warnings_congr (h : vars setting.key = vars' setting.key) :
    (loadLenient vars).2.filter (·.setting = setting) =
      (loadLenient vars').2.filter (·.setting = setting) := by
  have hbad : bad? vars setting = bad? vars' setting := by
    unfold bad?
    rw [h]
  rw [filter_warnings, filter_warnings, hbad]

theorem agreeAt_loadLenient (h : vars setting.key = vars' setting.key) :
    AgreeAt setting (loadLenient vars).1 (loadLenient vars').1 := by
  rw [loadLenient_eq, loadLenient_eq]
  exact agreeAt_ofVars h

theorem agreeAt_loadStrict {c c' : Config} (h : vars setting.key = vars' setting.key)
    (hc : loadStrict vars = .ok c) (hc' : loadStrict vars' = .ok c') : AgreeAt setting c c' := by
  rw [(loadStrict_eq_ok_iff.mp hc).2, (loadStrict_eq_ok_iff.mp hc').2]
  exact agreeAt_ofVars h

theorem badSettings_congr (h : ∀ setting : Setting, vars setting.key = vars' setting.key) :
    badSettings vars = badSettings vars' := by
  unfold badSettings bad?
  simp only [h]

theorem ofVars_congr (h : ∀ setting : Setting, vars setting.key = vars' setting.key) :
    ofVars vars = ofVars vars' :=
  eq_of_agreeAt fun setting => agreeAt_ofVars (h setting)

end Config

namespace Environment

variable {e : Environment} {key raw : String}

/-- The environment with another file. -/
def withFile (e : Environment) (file : String) : Environment :=
  { e with file := file }

/-- The environment without a variable of the process. -/
def without (e : Environment) (key : String) : Environment :=
  { e with vars := e.vars.filter (·.1 ≠ key) }

theorem get?_withFile (e : Environment) (file : String) :
    (e.withFile file).get? = Dotenv.load e.process? (Dotenv.lines file) :=
  rfl

theorem get?_withFile_of_process (h : e.process? key = some raw) (file : String) :
    (e.withFile file).get? key = e.get? key :=
  (Dotenv.load_of_set h _).trans (get?_of_process h).symm

/-- A file counts up to its first malformed line. -/
theorem get?_withFile_of_cut {file : String} {before after : List Dotenv.Line}
    (h : Dotenv.lines e.file = before ++ .malformed :: after) (hfile : Dotenv.lines file = before) :
    (e.withFile file).get? = e.get? := by
  rw [get?_withFile, hfile, get?, h, Dotenv.load_append_malformed]

theorem process?_without {bytes : List UInt8} (hbytes : e.vars.lookup key = some bytes)
    (hnot : Text.Utf8.decode? bytes = none) : (e.without key).process? = e.process? := by
  funext k
  unfold process?
  by_cases hk : k = key
  · have hnone : (e.without key).vars.lookup k = none := by
      rw [hk, List.lookup_eq_none_iff]
      intro p hp
      have hne : p.1 ≠ key := of_decide_eq_true (List.mem_filter.mp hp).2
      exact bne_iff_ne.mpr (Ne.symm hne)
    rw [hnone, hk, hbytes, Option.bind_none, Option.bind_some, hnot]
  · have hsame : (e.without key).vars.lookup k = e.vars.lookup k :=
      Json.lookup_filter_ne (Ne.symm hk)
    rw [hsame]

/-- What a strict failure is about was said in time. -/
theorem raw_of_error {bad : BadSetting} (h : e.configStrict = .error bad) :
    e.process? bad.setting.key = some bad.raw ∨
      Dotenv.GivesInTime e.process? (Dotenv.lines e.file) bad.setting.key bad.raw := by
  have hmem := Config.mem_badSettings_of_error h
  have hraw : e.get? bad.setting.key = some bad.raw := (Config.mem_badSettings_iff.mp hmem).1
  cases hprocess : e.process? bad.setting.key with
  | some raw => exact .inl ((get?_of_process hprocess).symm.trans hraw)
  | none => exact .inr (Dotenv.givesInTime_of_load hprocess hraw)

/-- What the process sets does not depend on the file. -/
structure ProcessPrevails (e : Environment) (file : String) : Prop where
  /-- The look-up yields the value of the process under either file. -/
  get : ∀ key raw, e.process? key = some raw →
    e.get? key = some raw ∧ (e.withFile file).get? key = some raw
  /-- A setting whose variable the process sets is the same under either file. -/
  setting : ∀ setting : Setting, (e.process? setting.key).isSome = true →
    Config.AgreeAt setting e.config.1 (e.withFile file).config.1
  /-- So are the warnings about it. -/
  warning : ∀ setting : Setting, (e.process? setting.key).isSome = true →
    e.config.2.filter (·.setting = setting) =
      (e.withFile file).config.2.filter (·.setting = setting)
  /-- It is also the same for strict loading when that succeeds. -/
  setting_strict : ∀ (setting : Setting) c c', (e.process? setting.key).isSome = true →
    e.configStrict = .ok c → (e.withFile file).configStrict = .ok c' → Config.AgreeAt setting c c'
  /-- When the process sets all variables the file does not count. -/
  all : (∀ setting : Setting, (e.process? setting.key).isSome = true) →
    e.config = (e.withFile file).config ∧ e.configStrict = (e.withFile file).configStrict
  /-- Lenient loading never fails. -/
  lenient_succeeds : (Config.load .lenient e.get?).result = .ok e.config.1
  /-- Strict loading fails for the value of a variable only, which the process sets or a well-formed
  line in front of every malformed one. -/
  strict_fails : ∀ bad, e.configStrict = .error bad →
    (∃ largest, bad.setting.largest? = some largest ∧
      ¬∃ n, WritesNumber bad.raw n ∧ n ≤ largest) ∧
    (e.process? bad.setting.key = some bad.raw ∨
      Dotenv.GivesInTime e.process? (Dotenv.lines e.file) bad.setting.key bad.raw)
  /-- A malformed line does as much as the end of the file. -/
  cut : ∀ before after, Dotenv.lines e.file = before ++ .malformed :: after →
    Dotenv.lines file = before →
      e.config = (e.withFile file).config ∧ e.configStrict = (e.withFile file).configStrict
  /-- A variable of the process whose bytes are no text might as well be unset. -/
  undecodable : ∀ key bytes, e.vars.lookup key = some bytes → Text.Utf8.decode? bytes = none →
    e.process? key = none ∧ e.get? = (e.without key).get?

/-- **The process comes before the file**, whatever either of them says. -/
theorem process_prevails (e : Environment) (file : String) : ProcessPrevails e file := by
  have hget : ∀ key, (e.process? key).isSome = true → e.get? key = (e.withFile file).get? key := by
    intro key hset
    obtain ⟨raw, hraw⟩ := Option.isSome_iff_exists.mp hset
    exact (get?_withFile_of_process hraw file).symm
  constructor
  case get =>
    intro key raw hraw
    exact ⟨get?_of_process hraw, Dotenv.load_of_set hraw _⟩
  case setting => exact fun setting hset => Config.agreeAt_loadLenient (hget _ hset)
  case warning => exact fun setting hset => Config.warnings_congr (hget _ hset)
  case setting_strict =>
    exact fun setting c c' hset hc hc' => Config.agreeAt_loadStrict (hget _ hset) hc hc'
  case all =>
    intro hall
    have hkeys : ∀ setting : Setting, e.get? setting.key = (e.withFile file).get? setting.key :=
      fun setting => hget _ (hall setting)
    have hbad := Config.badSettings_congr hkeys
    have hvars := Config.ofVars_congr hkeys
    constructor
    · rw [config, config, Config.loadLenient_eq, Config.loadLenient_eq, hbad, hvars]
    · rw [configStrict, configStrict, Config.loadStrict_eq, Config.loadStrict_eq, hbad, hvars]
  case lenient_succeeds =>
    rw [(Config.meets_load e.get?).lenient, config, Config.loadLenient_eq]
  case strict_fails =>
    intro bad hbad
    obtain ⟨largest, hlargest⟩ := Config.exists_largest_of_error hbad
    exact ⟨⟨largest, hlargest, Config.not_writesNumber_of_error hbad hlargest⟩, raw_of_error hbad⟩
  case cut =>
    intro before after hlines hfile
    have hsame := get?_withFile_of_cut hlines hfile
    exact ⟨by rw [config, config, hsame], by rw [configStrict, configStrict, hsame]⟩
  case undecodable =>
    intro key bytes hbytes hnot
    constructor
    · rw [process?, hbytes, Option.bind_some, hnot, Option.map_none]
    · rw [get?, get?, process?_without hbytes hnot]
      rfl

end Environment

end LedgerLookup
