import LedgerLookup.Proofs.Config.Loading
import LedgerLookup.Proofs.Text.Blank
import LedgerLookup.Proofs.Text.Digits

/-!
# Settings in variables

Which texts strict loading takes for a number, and which settings it makes of them: a number that
can be written is the number that is loaded, and every configuration can be written in variables.
-/

namespace LedgerLookup

/-! ### Texts of numbers -/

/-- The text is that of the number: one or more digits, of which the first ones may be zeros, after
an optional plus sign, with any blanks around. -/
def WritesNumber (raw : String) (n : Nat) : Prop :=
  ∃ front plus ds back : List Char, raw.toList = front ++ (plus ++ ds) ++ back ∧
    (∀ c ∈ front, Text.isBlank c = true) ∧ (∀ c ∈ back, Text.isBlank c = true) ∧
    (plus = [] ∨ plus = ['+']) ∧ ds ≠ [] ∧ (∀ c ∈ ds, Text.isDigit c = true) ∧
    Text.digitsValue ds = n

/-- A text that is blank. -/
def IsBlankText (raw : String) : Prop :=
  ∀ c ∈ raw.toList, Text.isBlank c = true

theorem writesNumber_iff {raw : String} {n : Nat} :
    WritesNumber raw n ↔ Text.readUnsigned? (Text.trim raw.toList) = some n := by
  rw [Text.readUnsigned?_eq_some_iff]
  constructor
  · rintro ⟨front, plus, ds, back, hraw, hfront, hback, hplus, hne, hds, hn⟩
    have hvisible : ∀ c ∈ plus ++ ds, Text.isBlank c = false := by
      intro c hc
      rcases List.mem_append.mp hc with hc | hc
      · rcases hplus with rfl | rfl
        · cases hc
        · rw [List.mem_singleton.mp hc]
          decide
      · exact Text.isBlank_of_isDigit (hds c hc)
    rw [hraw, Text.trim_of_padded hfront hvisible hback]
    exact ⟨plus, ds, rfl, hplus, hne, hds, hn⟩
  · rintro ⟨plus, ds, htrim, hplus, hne, hds, hn⟩
    obtain ⟨front, back, hraw, hfront, hback⟩ := Text.exists_padding raw.toList
    rw [htrim] at hraw
    exact ⟨front, plus, ds, back, hraw, hfront, hback, hplus, hne, hds, hn⟩

/-- A text writes at most one number. -/
theorem WritesNumber.unique {raw : String} {n m : Nat} (hn : WritesNumber raw n)
    (hm : WritesNumber raw m) : n = m :=
  Option.some.inj ((writesNumber_iff.mp hn).symm.trans (writesNumber_iff.mp hm))

theorem writesNumber_digits (n : Nat) {front back : List Char}
    (hfront : ∀ c ∈ front, Text.isBlank c = true) (hback : ∀ c ∈ back, Text.isBlank c = true) :
    WritesNumber (String.ofList (front ++ Text.digits n ++ back)) n :=
  ⟨front, [], Text.digits n, back, String.toList_ofList, hfront, hback, .inl rfl,
    Nat.toDigits_ne_nil, fun _ hc => Text.isDigit_of_mem_digits hc, Text.digitsValue_digits n⟩

/-! ### Numbers of a range -/

theorem Width.low_le_natCast (w : Width) (n : Nat) : w.low ≤ n := by
  cases w <;> simp only [Width.low] <;> omega

namespace Config

variable {w : Width} {raw : String}

/-- A number is read when the text writes it and it lies below the end of the range. -/
theorem readWord?_eq_some_iff {value : Word w} :
    readWord? raw = some value ↔ ∃ n : Nat, WritesNumber raw n ∧ value.val = n := by
  unfold readWord?
  simp only [Option.bind_eq_some_iff, ← writesNumber_iff]
  refine exists_congr fun n => and_congr_right fun _ => ?_
  constructor
  · intro h
    unfold Word.ofInt? at h
    split_ifs at h
    rw [← Option.some.inj h]
  · intro h
    rw [← h]
    exact Word.ofInt?_val value

theorem readWord?_isSome_iff : (readWord? (w := w) raw).isSome = true ↔
    ∃ n : Nat, WritesNumber raw n ∧ (n : Int) < w.high := by
  rw [Option.isSome_iff_exists]
  simp only [readWord?_eq_some_iff]
  constructor
  · rintro ⟨value, n, hn, hvalue⟩
    exact ⟨n, hn, hvalue ▸ value.lt_high⟩
  · rintro ⟨n, hn, hlt⟩
    exact ⟨⟨n, w.low_le_natCast n, hlt⟩, n, hn, rfl⟩

end Config

/-- The largest number that a numeric setting can have. -/
def Setting.largest? : Setting → Option Nat
  | port _ => some 65535
  | requestTimeout => some (2 ^ 64 - 1)
  | baseUrl => none
  | oracleUrl => none

/-- The range of a numeric setting ends there. -/
theorem Setting.largest?_eq_some_iff {setting : Setting} {largest : Nat} :
    setting.largest? = some largest ↔
      ∃ w, setting.width? = some w ∧ w.high = (largest : Int) + 1 := by
  cases setting with
  | port d =>
    simp only [largest?, width?, Option.some.injEq, exists_eq_left', Width.high]
    omega
  | requestTimeout =>
    simp only [largest?, width?, Option.some.injEq, exists_eq_left', Width.high]
    omega
  | baseUrl => simp [largest?, width?]
  | oracleUrl => simp [largest?, width?]

theorem Setting.exists_largest {setting : Setting} {w : Width} (h : setting.width? = some w) :
    ∃ largest, setting.largest? = some largest := by
  cases setting with
  | port d => exact ⟨_, rfl⟩
  | requestTimeout => exact ⟨_, rfl⟩
  | baseUrl => cases h
  | oracleUrl => cases h

/-! ### Strict loading -/

/-- Only the variable of one setting is set. -/
def Lookup.single (setting : Setting) (raw : String) : Lookup := fun key =>
  if key = setting.key then some raw else none

theorem Lookup.single_key_eq_some_iff {setting other : Setting} {raw value : String} :
    Lookup.single setting raw other.key = some value ↔ other = setting ∧ raw = value := by
  simp [Lookup.single, Setting.key_injective.eq_iff]

/-- The variables hold the settings: the URLs as they stand, and the numbers in decimal with blanks
around. -/
structure Lookup.Holds (vars : Lookup) (c : Config) : Prop where
  baseUrl : vars Setting.baseUrl.key = some c.baseUrl
  oracleUrl : vars Setting.oracleUrl.key = some c.oracleUrl
  number : ∀ setting i, c.number? setting = some i → ∃ front back : List Char,
    (∀ ch ∈ front, Text.isBlank ch = true) ∧ (∀ ch ∈ back, Text.isBlank ch = true) ∧
    vars setting.key = some (String.ofList (front ++ Text.digits i.toNat ++ back))

namespace Config

variable {vars : Lookup} {c : Config} {setting : Setting} {largest : Nat} {raw : String}

theorem loadStrict_eq_ok_iff :
    loadStrict vars = .ok c ↔ badSettings vars = [] ∧ c = ofVars vars := by
  rw [loadStrict_eq, Loading.upTo_eq_ok_iff, List.map_eq_nil_iff]

theorem readWord?_isSome_iff_of_largest {w : Width} (hw : setting.width? = some w)
    (h : setting.largest? = some largest) :
    (readWord? (w := w) raw).isSome = true ↔ ∃ n, WritesNumber raw n ∧ n ≤ largest := by
  obtain ⟨w', hw', hhigh⟩ := Setting.largest?_eq_some_iff.mp h
  obtain rfl : w' = w := Option.some.inj (hw'.symm.trans hw)
  rw [readWord?_isSome_iff, hhigh]
  exact exists_congr fun n => and_congr_right fun _ => by omega

/-- Strict loading succeeds when every numeric variable that is set holds a number of its range. -/
theorem exists_loadStrict_iff : (∃ c, loadStrict vars = .ok c) ↔
    ∀ (setting : Setting) largest raw, setting.largest? = some largest →
      vars setting.key = some raw → ∃ n, WritesNumber raw n ∧ n ≤ largest := by
  simp only [loadStrict_eq_ok_iff, exists_and_left, exists_eq, and_true]
  rw [List.eq_nil_iff_forall_not_mem]
  constructor
  · intro h setting largest raw hlargest hraw
    obtain ⟨w, hw, -⟩ := Setting.largest?_eq_some_iff.mp hlargest
    rw [← readWord?_isSome_iff_of_largest hw hlargest]
    by_contra hnone
    rw [Bool.not_eq_true, Option.isSome_eq_false_iff, Option.isNone_iff_eq_none] at hnone
    exact h ⟨setting, raw⟩ (mem_badSettings_iff.mpr ⟨hraw, w, hw, hnone⟩)
  · rintro h bad hbad
    obtain ⟨hraw, w, hw, hnone⟩ := mem_badSettings_iff.mp hbad
    obtain ⟨largest, hlargest⟩ := Setting.exists_largest hw
    have hsome := h bad.setting largest bad.raw hlargest hraw
    rw [← readWord?_isSome_iff_of_largest hw hlargest, hnone] at hsome
    cases hsome

/-- A number that is loaded is the one that the variable writes. -/
theorem number?_of_writesNumber (hload : loadStrict vars = .ok c)
    (hlargest : setting.largest? = some largest) (hraw : vars setting.key = some raw) {n : Nat}
    (hn : WritesNumber raw n) : c.number? setting = some (n : Int) := by
  obtain ⟨w, hw, -⟩ := Setting.largest?_eq_some_iff.mp hlargest
  obtain ⟨m, hm, hle⟩ := exists_loadStrict_iff.mp ⟨c, hload⟩ setting largest raw hlargest hraw
  have hsome := (readWord?_isSome_iff_of_largest hw hlargest).mpr ⟨m, hm, hle⟩
  obtain ⟨value, hvalue⟩ := Option.isSome_iff_exists.mp hsome
  obtain ⟨k, hk, hval⟩ := readWord?_eq_some_iff.mp hvalue
  obtain rfl := hn.unique hk
  have hread : value? vars setting = some value := by rw [value?, hraw, Option.bind_some, hvalue]
  rw [(loadStrict_eq_ok_iff.mp hload).2, number?_of_value hw hread, hval]

theorem number?_of_unset (hload : loadStrict vars = .ok c)
    (hlargest : setting.largest? = some largest) (hunset : vars setting.key = none) :
    c.number? setting = standard.number? setting := by
  obtain ⟨w, hw, -⟩ := Setting.largest?_eq_some_iff.mp hlargest
  have hread : value? (w := w) vars setting = none := by rw [value?, hunset, Option.bind_none]
  rw [(loadStrict_eq_ok_iff.mp hload).2, number?_of_no_value hw hread]

theorem mem_badSettings_of_error {bad : BadSetting} (h : loadStrict vars = .error bad) :
    bad ∈ badSettings vars := by
  rw [loadStrict_eq, Loading.upTo_eq_error_iff] at h
  obtain ⟨first, others, hlist, rfl⟩ := h
  obtain ⟨b, rest, hb, rfl, -⟩ := List.map_eq_cons_iff.mp hlist
  exact hb ▸ List.mem_cons_self

/-- Only a numeric variable makes strict loading fail. -/
theorem exists_largest_of_error {bad : BadSetting} (h : loadStrict vars = .error bad) :
    ∃ largest, bad.setting.largest? = some largest := by
  obtain ⟨-, w, hw, -⟩ := mem_badSettings_iff.mp (mem_badSettings_of_error h)
  exact Setting.exists_largest hw

/-- It holds something else than a number of its range. -/
theorem not_writesNumber_of_error {bad : BadSetting} (h : loadStrict vars = .error bad)
    (hlargest : bad.setting.largest? = some largest) :
    ¬∃ n, WritesNumber bad.raw n ∧ n ≤ largest := by
  obtain ⟨-, w, hw, hnone⟩ := mem_badSettings_iff.mp (mem_badSettings_of_error h)
  rw [← readWord?_isSome_iff_of_largest hw hlargest, hnone]
  exact Bool.false_ne_true

/-! ### URLs -/

/-- The URL that a configuration has for a setting. -/
def url? (c : Config) : Setting → Option String
  | .baseUrl => some c.baseUrl
  | .oracleUrl => some c.oracleUrl
  | .port _ => none
  | .requestTimeout => none

theorem isEmpty_trim_iff : (Text.trim raw.toList).isEmpty = true ↔ IsBlankText raw :=
  List.isEmpty_iff.trans Text.trim_eq_nil_iff

theorem urlSetting_of_not_blank (default : String) (hraw : vars setting.key = some raw)
    (hblank : ¬IsBlankText raw) : urlSetting vars setting default = raw := by
  unfold urlSetting
  rw [hraw]
  exact if_neg (mt isEmpty_trim_iff.mp hblank)

theorem urlSetting_of_blank (default : String)
    (hblank : ∀ raw, vars setting.key = some raw → IsBlankText raw) :
    urlSetting vars setting default = default := by
  unfold urlSetting
  cases hraw : vars setting.key with
  | none => rfl
  | some raw => exact if_pos (isEmpty_trim_iff.mpr (hblank raw hraw))

theorem url?_of_not_blank (hload : loadStrict vars = .ok c) (hurl : setting.largest? = none)
    (hraw : vars setting.key = some raw) (hblank : ¬IsBlankText raw) :
    c.url? setting = some raw := by
  rw [(loadStrict_eq_ok_iff.mp hload).2]
  cases setting with
  | port d => cases hurl
  | requestTimeout => cases hurl
  | baseUrl => exact congrArg some (urlSetting_of_not_blank _ hraw hblank)
  | oracleUrl => exact congrArg some (urlSetting_of_not_blank _ hraw hblank)

theorem url?_of_blank (hload : loadStrict vars = .ok c)
    (hblank : ∀ raw, vars setting.key = some raw → IsBlankText raw) :
    c.url? setting = standard.url? setting := by
  rw [(loadStrict_eq_ok_iff.mp hload).2]
  cases setting with
  | port d => rfl
  | requestTimeout => rfl
  | baseUrl => exact congrArg some (urlSetting_of_blank _ hblank)
  | oracleUrl => exact congrArg some (urlSetting_of_blank _ hblank)

/-! ### Configurations in variables -/

theorem ext_number {c c' : Config} (hbase : c.baseUrl = c'.baseUrl)
    (horacle : c.oracleUrl = c'.oracleUrl)
    (hnumber : ∀ setting, c.number? setting = c'.number? setting) : c = c' := by
  have hport : ∀ d, c.ports.get d = c'.ports.get d := fun d =>
    Word.ext (Option.some.inj (hnumber (.port d)))
  have htimeout : c.requestTimeoutMs = c'.requestTimeoutMs :=
    Word.ext (Option.some.inj (hnumber .requestTimeout))
  obtain ⟨baseUrl, ⟨staging, test, dev, main⟩, oracleUrl, timeout⟩ := c
  obtain ⟨baseUrl', ⟨staging', test', dev', main'⟩, oracleUrl', timeout'⟩ := c'
  obtain rfl : staging = staging' := hport .staging
  obtain rfl : test = test' := hport .test
  obtain rfl : dev = dev' := hport .dev
  obtain rfl : main = main' := hport .main
  simp only at hbase horacle htimeout
  rw [hbase, horacle, htimeout]

/-- A numeric setting has a number of its range. -/
theorem number?_eq_some (c : Config) (h : setting.largest? = some largest) :
    ∃ n : Nat, c.number? setting = some (n : Int) ∧ n ≤ largest := by
  have hword : ∀ {w : Width} (i : Word w), w.low = 0 → w.high = (largest : Int) + 1 →
      ∃ n : Nat, some i.val = some (n : Int) ∧ n ≤ largest := by
    intro w i hlow hhigh
    have hnonneg := i.low_le
    have hlt := i.lt_high
    exact ⟨i.val.toNat, congrArg some (by omega), by omega⟩
  obtain ⟨w, hw, hhigh⟩ := Setting.largest?_eq_some_iff.mp h
  cases setting with
  | port d =>
    obtain rfl : Width.u16 = w := Option.some.inj hw
    exact hword (c.ports.get d) rfl hhigh
  | requestTimeout =>
    obtain rfl : Width.u64 = w := Option.some.inj hw
    exact hword c.requestTimeoutMs rfl hhigh
  | baseUrl => cases hw
  | oracleUrl => cases hw

theorem number?_of_no_largest (c : Config) (h : setting.largest? = none) :
    c.number? setting = none := by
  cases setting with
  | port d => cases h
  | requestTimeout => cases h
  | baseUrl => rfl
  | oracleUrl => rfl

/-- The variables in which a configuration is written, with blanks around the numbers. -/
def toVars (front back : Setting → List Char) (c : Config) : Lookup := fun key =>
  ((Setting.baseUrl :: .oracleUrl :: Setting.numeric).find? (·.key = key)).bind fun setting =>
    (c.url? setting).or ((c.number? setting).map fun i =>
      String.ofList (front setting ++ Text.digits i.toNat ++ back setting))

theorem toVars_key (front back : Setting → List Char) (c : Config) (setting : Setting) :
    c.toVars front back setting.key = (c.url? setting).or ((c.number? setting).map fun i =>
      String.ofList (front setting ++ Text.digits i.toNat ++ back setting)) := by
  have hfind : (Setting.baseUrl :: .oracleUrl :: Setting.numeric).find? (·.key = setting.key) =
      some setting := by
    cases setting with
    | port d => cases d <;> decide
    | requestTimeout => decide
    | baseUrl => decide
    | oracleUrl => decide
  rw [toVars, hfind]
  rfl

theorem holds_toVars {front back : Setting → List Char}
    (hfront : ∀ setting, ∀ ch ∈ front setting, Text.isBlank ch = true)
    (hback : ∀ setting, ∀ ch ∈ back setting, Text.isBlank ch = true) :
    (c.toVars front back).Holds c where
  baseUrl := toVars_key front back c .baseUrl
  oracleUrl := toVars_key front back c .oracleUrl
  number setting i hi := by
    refine ⟨front setting, back setting, hfront setting, hback setting, ?_⟩
    have hurl : c.url? setting = none := by
      cases setting with
      | port d => rfl
      | requestTimeout => rfl
      | baseUrl => cases hi
      | oracleUrl => cases hi
    rw [toVars_key, hurl, hi]
    rfl

/-- A configuration is loaded from variables that hold it. -/
theorem loadStrict_of_holds (h : vars.Holds c) (hbase : ¬IsBlankText c.baseUrl)
    (horacle : ¬IsBlankText c.oracleUrl) : loadStrict vars = .ok c := by
  have hwrites : ∀ (setting : Setting) largest raw, setting.largest? = some largest →
      vars setting.key = some raw → ∃ n : Nat, WritesNumber raw n ∧ n ≤ largest ∧
        c.number? setting = some (n : Int) := by
    intro setting largest raw hlargest hraw
    obtain ⟨n, hn, hle⟩ := c.number?_eq_some hlargest
    obtain ⟨front, back, hfront, hback, hvar⟩ := h.number setting n hn
    obtain rfl := Option.some.inj (hraw.symm.trans hvar)
    exact ⟨n, writesNumber_digits n hfront hback, hle, hn⟩
  obtain ⟨c', hc'⟩ := exists_loadStrict_iff.mpr fun setting largest raw hlargest hraw => by
    obtain ⟨n, hn, hle, -⟩ := hwrites setting largest raw hlargest hraw
    exact ⟨n, hn, hle⟩
  refine hc'.trans (congrArg Except.ok (ext_number ?_ ?_ fun setting => ?_))
  · exact Option.some.inj (url?_of_not_blank hc' rfl h.baseUrl hbase)
  · exact Option.some.inj (url?_of_not_blank hc' rfl h.oracleUrl horacle)
  · cases hlargest : setting.largest? with
    | none => rw [number?_of_no_largest c' hlargest, number?_of_no_largest c hlargest]
    | some largest =>
      obtain ⟨n, hn, -⟩ := c.number?_eq_some hlargest
      obtain ⟨front, back, -, -, hraw⟩ := h.number setting n hn
      obtain ⟨m, hm, -, hnumber⟩ := hwrites setting largest _ hlargest hraw
      rw [number?_of_writesNumber hc' hlargest hraw hm, hnumber]

/-- How strict loading reads variables into a configuration. -/
structure ReadsExactly (vars : Lookup) (c : Config) : Prop where
  /-- The variable of a number is accepted when it writes a number that is not too large. -/
  accepts_single : ∀ (setting : Setting) largest raw, setting.largest? = some largest →
    ((∃ c', loadStrict (.single setting raw) = .ok c') ↔ ∃ n, WritesNumber raw n ∧ n ≤ largest)
  /-- All variables are accepted when each of the numeric ones that are set is. -/
  accepts : (∃ c', loadStrict vars = .ok c') ↔
    ∀ (setting : Setting) largest raw, setting.largest? = some largest →
      vars setting.key = some raw → ∃ n, WritesNumber raw n ∧ n ≤ largest
  /-- The number that is loaded is the one that is written. -/
  number : loadStrict vars = .ok c → ∀ (setting : Setting) largest raw n,
    setting.largest? = some largest → vars setting.key = some raw → WritesNumber raw n →
      c.number? setting = some (n : Int)
  /-- A numeric setting whose variable is unset is the standard one. -/
  number_unset : loadStrict vars = .ok c → ∀ (setting : Setting) largest,
    setting.largest? = some largest → vars setting.key = none →
      c.number? setting = standard.number? setting
  /-- A URL that is not blank is taken as it stands. -/
  url : loadStrict vars = .ok c → ∀ (setting : Setting) raw, setting.largest? = none →
    vars setting.key = some raw → ¬IsBlankText raw → c.url? setting = some raw
  /-- One whose variable is unset or blank is the standard one. -/
  url_blank : loadStrict vars = .ok c → ∀ setting : Setting, setting.largest? = none →
    (∀ raw, vars setting.key = some raw → IsBlankText raw) → c.url? setting = standard.url? setting
  /-- No URL makes strict loading fail. -/
  url_accepted : ∀ bad, loadStrict vars = .error bad →
    ∃ largest, bad.setting.largest? = some largest
  /-- A configuration with URLs that are not blank is loaded from variables that hold it. -/
  loads_held : vars.Holds c → ¬IsBlankText c.baseUrl → ¬IsBlankText c.oracleUrl →
    loadStrict vars = .ok c
  /-- Every configuration can be written so. -/
  held : ∀ front back : Setting → List Char,
    (∀ setting, ∀ ch ∈ front setting, Text.isBlank ch = true) →
    (∀ setting, ∀ ch ∈ back setting, Text.isBlank ch = true) → (c.toVars front back).Holds c

/-- **Variables are read exactly**, whatever they hold. -/
theorem variables_read_exactly (vars : Lookup) (c : Config) : ReadsExactly vars c where
  accepts_single setting largest raw hlargest := by
    rw [exists_loadStrict_iff]
    simp only [Lookup.single_key_eq_some_iff]
    constructor
    · exact fun h => h setting largest raw hlargest ⟨rfl, rfl⟩
    · rintro h other largest' raw' hlargest' ⟨rfl, rfl⟩
      obtain rfl := Option.some.inj (hlargest.symm.trans hlargest')
      exact h
  accepts := exists_loadStrict_iff
  number hload _ _ _ _ hlargest hraw hn := number?_of_writesNumber hload hlargest hraw hn
  number_unset hload _ _ hlargest hunset := number?_of_unset hload hlargest hunset
  url hload _ _ hurl hraw hblank := url?_of_not_blank hload hurl hraw hblank
  url_blank hload _ _ hblank := url?_of_blank hload hblank
  url_accepted _ h := exists_largest_of_error h
  loads_held h hbase horacle := loadStrict_of_holds h hbase horacle
  held _ _ hfront hback := holds_toVars hfront hback

/-- Zeros in front do not count, and the end of the range does. -/
example :
    (loadStrict (.single (.port .main) "\u00a0+00065535\n")).toOption.map (·.ports.main.val) =
      some 65535 ∧
    (loadStrict (.single (.port .main) "65536")).toOption.isNone = true := by
  decide +kernel

end Config

end LedgerLookup
