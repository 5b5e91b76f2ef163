import LedgerLookup.Config
import Mathlib.Data.List.Basic

/-!
# Strict and lenient loading

The settings of variables are loaded in one pass, whatever is done about those that cannot be
read.  Both ways of loading are followed side by side: as long as nothing is bad they go together,
the first bad setting ends the strict one, and the lenient one goes on and keeps a list of the bad
settings.  What it loads is then what is loaded strictly once the bad variables are taken away.
-/

namespace LedgerLookup

/-! ### What the variables say -/

namespace Setting

/-- The range of a numeric setting. -/
def width? : Setting → Option Width
  | port _ => some .u16
  | requestTimeout => some .u64
  | baseUrl => none
  | oracleUrl => none

/-- The numeric settings in the order in which they are read. -/
def numeric : List Setting :=
  [port .staging, port .test, port .dev, port .main, requestTimeout]

theorem mem_numeric_iff {setting : Setting} :
    setting ∈ numeric ↔ setting.width?.isSome = true := by
  cases setting with
  | port d => cases d <;> decide
  | requestTimeout => decide
  | baseUrl => decide
  | oracleUrl => decide

/-- Every setting has a variable of its own. -/
theorem key_injective : Function.Injective key := by
  have hall : ∀ a ∈ baseUrl :: oracleUrl :: numeric, ∀ b ∈ baseUrl :: oracleUrl :: numeric,
      a.key = b.key → a = b := by decide
  have hmem : ∀ a : Setting, a ∈ baseUrl :: oracleUrl :: numeric := by
    intro a
    cases a with
    | port d => cases d <;> decide
    | requestTimeout => decide
    | baseUrl => decide
    | oracleUrl => decide
  intro a b hab
  exact hall a (hmem a) b (hmem b) hab

end Setting

/-- The variables without those of some settings. -/
def Lookup.without (vars : Lookup) (settings : List Setting) : Lookup := fun key =>
  if key ∈ settings.map Setting.key then none else vars key

theorem Lookup.without_key (vars : Lookup) (settings : List Setting) (setting : Setting) :
    vars.without settings setting.key =
      if setting ∈ settings then none else vars setting.key := by
  simp [without, Setting.key_injective.eq_iff]

namespace Config

/-- The number that the variable of a setting holds, if it can be read. -/
def value? {w : Width} (vars : Lookup) (setting : Setting) : Option (Word w) :=
  (vars setting.key).bind readWord?

/-- The number that a configuration has for a setting. -/
def number? (c : Config) : Setting → Option Int
  | .port d => some (c.ports.get d).val
  | .requestTimeout => some c.requestTimeoutMs.val
  | .baseUrl => none
  | .oracleUrl => none

/-- The setting of a variable that holds something else than a number of its range. -/
def bad? (vars : Lookup) (setting : Setting) : Option BadSetting :=
  match setting.width?, vars setting.key with
  | some w, some raw => if (readWord? (w := w) raw).isNone then some ⟨setting, raw⟩ else none
  | _, _ => none

/-- The bad settings of the variables, in the order in which settings are read. -/
def badSettings (vars : Lookup) : List BadSetting :=
  Setting.numeric.filterMap (bad? vars)

/-- The warning about a bad setting, in whose place the standard one is used. -/
def warning (bad : BadSetting) : IgnoredSetting :=
  ⟨bad, Text.signedDecimal ((standard.number? bad.setting).getD 0)⟩

/-- The numbers that can be read and the URLs that are not blank, with the standard settings in the
other places. -/
def ofVars (vars : Lookup) : Config where
  baseUrl := urlSetting vars .baseUrl standard.baseUrl
  ports := {
    staging := (value? vars (.port .staging)).getD standard.ports.staging
    test := (value? vars (.port .test)).getD standard.ports.test
    dev := (value? vars (.port .dev)).getD standard.ports.dev
    main := (value? vars (.port .main)).getD standard.ports.main }
  oracleUrl := urlSetting vars .oracleUrl standard.oracleUrl
  requestTimeoutMs := (value? vars .requestTimeout).getD standard.requestTimeoutMs

end Config

/-! ### Both ways of loading at once -/

/-- What strict loading makes of a value with bad settings on the way to it. -/
def Loading.upTo {α : Type} (a : α) : List IgnoredSetting → Except BadSetting α
  | [] => .ok a
  | first :: _ => .error first.toBadSetting

/-- Loading meets the bad settings `bad` on the way to `a`.  The lenient one arrives, with a warning
for each, and the strict one fails at the first. -/
structure Meets {α : Type} (loading : Tolerance → Loading α) (a : α) (bad : List IgnoredSetting) :
    Prop where
  lenient : loading .lenient = ⟨.ok a, bad⟩
  strict : loading .strict = ⟨Loading.upTo a bad, []⟩

section

variable {α β : Type}

theorem Loading.upTo_eq_ok_iff {bad : List IgnoredSetting} {a a' : α} :
    Loading.upTo a bad = .ok a' ↔ bad = [] ∧ a' = a := by
  cases bad <;> simp [Loading.upTo, eq_comm]

theorem Loading.upTo_eq_error_iff {bad : List IgnoredSetting} {a : α} {b : BadSetting} :
    Loading.upTo a bad = .error b ↔
      ∃ first others, bad = first :: others ∧ first.toBadSetting = b := by
  cases bad <;> simp [Loading.upTo]

theorem Loading.bind_ok {loading : Loading α} {a : α} (h : loading.result = .ok a)
    (next : α → Loading β) :
    (loading >>= next) = ⟨(next a).result, loading.ignored ++ (next a).ignored⟩ := by
  simp only [bind, h]

theorem Loading.bind_error {loading : Loading α} {bad : BadSetting}
    (h : loading.result = .error bad) (next : α → Loading β) :
    (loading >>= next) = ⟨.error bad, loading.ignored⟩ := by
  simp only [bind, h]

theorem Meets.pure (a : α) : Meets (fun _ => Pure.pure a) a [] := ⟨rfl, rfl⟩

/-- The bad settings of two parts are met one after another. -/
theorem Meets.bind {loading : Tolerance → Loading α} {next : Tolerance → α → Loading β} {a : α}
    {b : β} {bad bad' : List IgnoredSetting} (h : Meets loading a bad)
    (hnext : Meets (fun tolerance => next tolerance a) b bad') :
    Meets (fun tolerance => loading tolerance >>= next tolerance) b (bad ++ bad') where
  lenient := by
    rw [Loading.bind_ok (congrArg Loading.result h.lenient), h.lenient, hnext.lenient]
  strict := by
    cases bad with
    | nil =>
      rw [Loading.bind_ok (congrArg Loading.result h.strict), h.strict, hnext.strict]
      rfl
    | cons first others =>
      rw [Loading.bind_error (congrArg Loading.result h.strict), h.strict]
      rfl

end

namespace Config

/-- A numeric setting is bad or is taken as it is read. -/
theorem meets_wordSetting (vars : Lookup) {setting : Setting} {w : Width} {default : Word w}
    (hw : setting.width? = some w) (hdefault : standard.number? setting = some default.val) :
    Meets (fun tolerance => wordSetting tolerance vars setting default)
      ((value? vars setting).getD default) ((bad? vars setting).toList.map warning) := by
  cases hvar : vars setting.key with
  | none =>
    have hbad : bad? vars setting = none := by simp [bad?, hw, hvar]
    simp only [wordSetting, value?, hvar, hbad, Option.bind_none, Option.getD_none]
    exact Meets.pure default
  | some raw =>
    cases hread : readWord? (w := w) raw with
    | some value =>
      have hbad : bad? vars setting = none := by simp [bad?, hw, hvar, hread]
      simp only [wordSetting, value?, hvar, hread, hbad, Option.bind_some, Option.getD_some]
      exact Meets.pure value
    | none =>
      have hbad : bad? vars setting = some ⟨setting, raw⟩ := by simp [bad?, hw, hvar, hread]
      have hwarning : warning ⟨setting, raw⟩ =
          ⟨⟨setting, raw⟩, Text.signedDecimal default.val⟩ := by
        simp [warning, hdefault]
      simp only [wordSetting, value?, hvar, hread, hbad, Option.bind_some, Option.getD_none,
        Option.toList_some, List.map_cons, List.map_nil, hwarning]
      exact ⟨rfl, rfl⟩

/-- All settings are loaded as the variables say, and the bad ones are met in order. -/
theorem meets_load (vars : Lookup) :
    Meets (fun tolerance => load tolerance vars) (ofVars vars)
      ((badSettings vars).map warning) := by
  have hlist : (badSettings vars).map warning =
      Setting.numeric.flatMap fun setting => (bad? vars setting).toList.map warning := by
    rw [badSettings, List.filterMap_eq_flatMap_toList, List.map_flatMap]
  rw [hlist]
  exact (meets_wordSetting vars rfl rfl).bind ((meets_wordSetting vars rfl rfl).bind
    ((meets_wordSetting vars rfl rfl).bind ((meets_wordSetting vars rfl rfl).bind
      ((meets_wordSetting vars rfl rfl).bind (Meets.pure _)))))

theorem loadStrict_eq (vars : Lookup) :
    loadStrict vars = Loading.upTo (ofVars vars) ((badSettings vars).map warning) :=
  congrArg Loading.result (meets_load vars).strict

/-- Lenient loading always arrives, so that the standard settings never take the place of all. -/
theorem loadLenient_eq (vars : Lookup) :
    loadLenient vars = (ofVars vars, (badSettings vars).map warning) := by
  rw [loadLenient, (meets_load vars).lenient]
  rfl

/-! ### Bad settings -/

theorem bad?_eq_some_iff {vars : Lookup} {setting : Setting} {bad : BadSetting} :
    bad? vars setting = some bad ↔ bad.setting = setting ∧ vars setting.key = some bad.raw ∧
      ∃ w, setting.width? = some w ∧ readWord? (w := w) bad.raw = none := by
  unfold bad?
  cases hw : setting.width? with
  | none => simp
  | some w =>
    cases hvar : vars setting.key with
    | none => simp
    | some raw =>
      simp only [Option.isNone_iff_eq_none, Option.ite_none_right_eq_some, Option.some.injEq]
      constructor
      · rintro ⟨hread, rfl⟩
        exact ⟨rfl, rfl, w, rfl, hread⟩
      · rintro ⟨rfl, rfl, w', rfl, hread⟩
        exact ⟨hread, rfl⟩

theorem mem_badSettings_iff {vars : Lookup} {bad : BadSetting} :
    bad ∈ badSettings vars ↔ vars bad.setting.key = some bad.raw ∧
      ∃ w, bad.setting.width? = some w ∧ readWord? (w := w) bad.raw = none := by
  simp only [badSettings, List.mem_filterMap, bad?_eq_some_iff]
  constructor
  · rintro ⟨setting, -, rfl, hraw, hread⟩
    exact ⟨hraw, hread⟩
  · rintro ⟨hraw, w, hw, hread⟩
    refine ⟨bad.setting, ?_, rfl, hraw, w, hw, hread⟩
    rw [Setting.mem_numeric_iff, hw]
    rfl

/-! ### Bad variables taken away -/

/-- The settings whose variables are bad. -/
def warned (vars : Lookup) : List Setting :=
  (badSettings vars).map BadSetting.setting

theorem mem_warned_iff {vars : Lookup} {setting : Setting} :
    setting ∈ warned vars ↔ ∃ raw, vars setting.key = some raw ∧
      ∃ w, setting.width? = some w ∧ readWord? (w := w) raw = none := by
  simp only [warned, List.mem_map, mem_badSettings_iff]
  constructor
  · rintro ⟨bad, ⟨hraw, hread⟩, rfl⟩
    exact ⟨bad.raw, hraw, hread⟩
  · rintro ⟨raw, hraw, hread⟩
    exact ⟨⟨setting, raw⟩, ⟨hraw, hread⟩, rfl⟩

/-- Taking the bad variables away changes no number that can be read. -/
theorem value?_without_warned (vars : Lookup) {setting : Setting} {w : Width}
    (hw : setting.width? = some w) :
    value? (w := w) (vars.without (warned vars)) setting = value? vars setting := by
  rw [value?, value?, Lookup.without_key]
  by_cases h : setting ∈ warned vars
  · obtain ⟨raw, hraw, w', hw', hread⟩ := mem_warned_iff.mp h
    obtain rfl : w' = w := Option.some.inj (hw'.symm.trans hw)
    simp [h, hraw, hread]
  · rw [if_neg h]

theorem urlSetting_without_warned (vars : Lookup) {setting : Setting}
    (hw : setting.width? = none) (default : String) :
    urlSetting (vars.without (warned vars)) setting default = urlSetting vars setting default := by
  have h : setting ∉ warned vars := by
    intro h
    obtain ⟨raw, -, w, hw', -⟩ := mem_warned_iff.mp h
    rw [hw] at hw'
    cases hw'
  rw [urlSetting, urlSetting, Lookup.without_key, if_neg h]

theorem ofVars_without_warned (vars : Lookup) :
    ofVars (vars.without (warned vars)) = ofVars vars := by
  unfold ofVars
  rw [urlSetting_without_warned vars rfl, urlSetting_without_warned vars rfl,
    value?_without_warned vars rfl, value?_without_warned vars rfl,
    value?_without_warned vars rfl, value?_without_warned vars rfl,
    value?_without_warned vars rfl]

/-- Nothing bad is left then. -/
theorem badSettings_without_warned (vars : Lookup) :
    badSettings (vars.without (warned vars)) = [] := by
  rw [List.eq_nil_iff_forall_not_mem]
  intro bad hbad
  obtain ⟨hraw, hread⟩ := mem_badSettings_iff.mp hbad
  rw [Lookup.without_key] at hraw
  split_ifs at hraw with h
  exact h (mem_warned_iff.mpr ⟨bad.raw, hraw, hread⟩)

/-! ### Settings one by one -/

/-- A setting whose variable can be read has the number that stands there. -/
theorem number?_of_value {vars : Lookup} {setting : Setting} {w : Width} {value : Word w}
    (hw : setting.width? = some w) (hvalue : value? vars setting = some value) :
    (ofVars vars).number? setting = some value.val := by
  cases setting with
  | port d =>
    obtain rfl : Width.u16 = w := Option.some.inj hw
    cases d <;> simp [number?, ofVars, Ports.get, hvalue]
  | requestTimeout =>
    obtain rfl : Width.u64 = w := Option.some.inj hw
    simp [number?, ofVars, hvalue]
  | baseUrl => cases hw
  | oracleUrl => cases hw

/-- Every other numeric setting is the standard one. -/
theorem number?_of_no_value {vars : Lookup} {setting : Setting} {w : Width}
    (hw : setting.width? = some w) (hvalue : value? (w := w) vars setting = none) :
    (ofVars vars).number? setting = standard.number? setting := by
  cases setting with
  | port d =>
    obtain rfl : Width.u16 = w := Option.some.inj hw
    cases d <;> simp [number?, ofVars, Ports.get, hvalue]
  | requestTimeout =>
    obtain rfl : Width.u64 = w := Option.some.inj hw
    simp [number?, ofVars, hvalue]
  | baseUrl => cases hw
  | oracleUrl => cases hw

/-- What strict and lenient loading make of the same variables. -/
structure LoadingAgrees (vars : Lookup) : Prop where
  /-- Lenient loading does not fail. -/
  lenient_succeeds : (load .lenient vars).result = .ok (loadLenient vars).1
  /-- Strict loading does not warn. -/
  strict_silent : (load .strict vars).ignored = []
  /-- Strict loading succeeds exactly when lenient loading does not warn, with the same settings. -/
  ok_iff : ∀ c, loadStrict vars = .ok c ↔
    (loadLenient vars).2 = [] ∧ c = (loadLenient vars).1
  /-- Otherwise it fails with what the first warning is about. -/
  error_iff : ∀ bad, loadStrict vars = .error bad ↔
    ∃ first others, (loadLenient vars).2 = first :: others ∧ first.toBadSetting = bad
  /-- The failure names the variable and the value as it stands there. -/
  error_names : ∀ bad, loadStrict vars = .error bad → vars bad.setting.key = some bad.raw ∧
    bad.failure = .invalidSetting (bad.setting.key ++ "=" ++ bad.raw)
  /-- There is one warning for each bad variable, in the order in which settings are read. -/
  warnings : (loadLenient vars).2 =
    ([.port .staging, .port .test, .port .dev, .port .main, .requestTimeout].filterMap
      (bad? vars)).map warning
  /-- A variable is bad when it holds something else than a number of the range of its setting. -/
  bad_iff : ∀ setting raw, bad? vars setting = some ⟨setting, raw⟩ ↔
    vars setting.key = some raw ∧
      ∃ w, setting.width? = some w ∧ readWord? (w := w) raw = none
  /-- Without the bad variables, strict loading gives what lenient loading gives with them. -/
  without_warned : loadStrict (vars.without ((loadLenient vars).2.map (·.setting))) =
    .ok (loadLenient vars).1
  /-- Every number that can be read is kept, and the others are the standard ones. -/
  numbers : ∀ setting w, setting.width? = some w → (loadLenient vars).1.number? setting =
    ((value? (w := w) vars setting).map Word.val).or (standard.number? setting)
  /-- So is every URL that is not blank. -/
  urls : (loadLenient vars).1.baseUrl = urlSetting vars .baseUrl standard.baseUrl ∧
    (loadLenient vars).1.oracleUrl = urlSetting vars .oracleUrl standard.oracleUrl

/-- **Strict and lenient loading agree**, whatever the variables hold. -/
theorem loading_agrees (vars : Lookup) : LoadingAgrees vars where
  lenient_succeeds := by
    rw [(meets_load vars).lenient, loadLenient_eq]
  strict_silent := by
    rw [(meets_load vars).strict]
  ok_iff c := by
    rw [loadStrict_eq, loadLenient_eq, Loading.upTo_eq_ok_iff]
  error_iff bad := by
    rw [loadStrict_eq, loadLenient_eq, Loading.upTo_eq_error_iff]
  error_names bad hbad := by
    -- the first warning is about a bad setting, and so its value stands in the variable
    rw [loadStrict_eq, Loading.upTo_eq_error_iff] at hbad
    obtain ⟨first, others, hlist, rfl⟩ := hbad
    obtain ⟨b, rest, hb, rfl, -⟩ := List.map_eq_cons_iff.mp hlist
    have hmem : b ∈ badSettings vars := hb ▸ List.mem_cons_self
    exact ⟨(mem_badSettings_iff.mp hmem).1, rfl⟩
  warnings := by
    rw [loadLenient_eq]
    rfl
  bad_iff setting raw := by
    simp [bad?_eq_some_iff]
  without_warned := by
    have hwarned : (loadLenient vars).2.map (·.setting) = warned vars := by
      rw [loadLenient_eq, List.map_map]
      rfl
    rw [hwarned, loadStrict_eq, ofVars_without_warned, badSettings_without_warned, loadLenient_eq]
    rfl
  numbers setting w hw := by
    rw [loadLenient_eq]
    cases hvalue : value? (w := w) vars setting with
    | some value => rw [number?_of_value hw hvalue]; rfl
    | none => rw [number?_of_no_value hw hvalue]; rfl
  urls := by
    rw [loadLenient_eq]
    exact ⟨rfl, rfl⟩

end Config

end LedgerLookup
