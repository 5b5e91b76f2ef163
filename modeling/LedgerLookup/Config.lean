import LedgerLookup.Endpoint
import LedgerLookup.Failure
import LedgerLookup.Json.Record
import LedgerLookup.Variables

/-!
# Configuration

The settings of the client, and the loading of them from named variables.  A port or timeout
variable is read after trimming; one that cannot be read is a failure when loading strictly, and
is ignored with a warning otherwise.  A URL variable that is blank counts as unset, and is taken
as it stands otherwise.
-/

namespace LedgerLookup

/-- The settings of the client. -/
structure Config where
  baseUrl : String
  ports : Ports
  oracleUrl : String
  requestTimeoutMs : Word .u64
deriving DecidableEq

/-- The settings that are used when no others are given. -/
def Config.standard : Config where
  baseUrl := "https://explorer.ledgerscope.io"
  ports := .standard
  oracleUrl := "https://api.coinbase.com/v2"
  requestTimeoutMs := { val := 30000 }

/-- A setting that a variable can hold. -/
inductive Setting where
  | port (deployment : Deployment)
  | requestTimeout
  | baseUrl
  | oracleUrl
deriving DecidableEq, Repr

namespace Setting

/-- The variable that holds a setting. -/
def key : Setting → String
  | port .staging => "EXPLORER_PORT_STAGING"
  | port .test => "EXPLORER_PORT_TEST"
  | port .dev => "EXPLORER_PORT_DEV"
  | port .main => "EXPLORER_PORT_MAIN"
  | requestTimeout => "EXPLORER_REQUEST_TIMEOUT_MS"
  | baseUrl => "EXPLORER_BASE_URL"
  | oracleUrl => "EXPLORER_ORACLE_URL"

end Setting

/-- A setting that cannot be read, with the value of its variable as it stands. -/
structure BadSetting where
  setting : Setting
  raw : String
deriving DecidableEq

/-- A setting that was ignored, and the text of the default that is used instead. -/
structure IgnoredSetting extends BadSetting where
  fallback : String
deriving DecidableEq

/-- How a setting that cannot be read is treated. -/
inductive Tolerance where
  /-- It is a failure. -/
  | strict
  /-- It is ignored with a warning. -/
  | lenient
deriving DecidableEq, Repr

/-- Loading in progress: what has been loaded, unless a bad setting was a failure, and the settings
that were ignored on the way. -/
structure Loading (α : Type) where
  result : Except BadSetting α
  ignored : List IgnoredSetting := []

namespace Loading

variable {α : Type}

/-- A bad setting as a failure of the loading. -/
def refuse (bad : BadSetting) : Loading α :=
  ⟨.error bad, []⟩

/-- A bad setting with a warning. -/
def ignore (ignored : IgnoredSetting) : Loading Unit :=
  ⟨.ok (), [ignored]⟩

instance : Monad Loading where
  pure a := ⟨.ok a, []⟩
  bind loading next :=
    match loading.result with
    | .error bad => ⟨.error bad, loading.ignored⟩
    | .ok a => ⟨(next a).result, loading.ignored ++ (next a).ignored⟩

end Loading

/-- A bad setting as a failure. -/
def BadSetting.failure (b : BadSetting) : Failure :=
  .invalidSetting (b.setting.key ++ "=" ++ b.raw)

namespace Config

/-- The text of a setting as a number of a range that holds no negative numbers. -/
def readWord? {w : Width} (raw : String) : Option (Word w) :=
  (Text.readUnsigned? (Text.trim raw.toList)).bind fun n => Word.ofInt? n

/-- A numeric setting, or its default when the variable is unset. -/
def wordSetting {w : Width} (tolerance : Tolerance) (vars : Lookup) (setting : Setting)
    (default : Word w) : Loading (Word w) :=
  match vars setting.key with
  | none => return default
  | some raw =>
    match readWord? raw, tolerance with
    | some value, _ => return value
    | none, .strict => .refuse ⟨setting, raw⟩
    | none, .lenient => do
      .ignore ⟨⟨setting, raw⟩, Text.signedDecimal default.val⟩
      return default

/-- A URL setting, or its default when the variable is unset or blank. -/
def urlSetting (vars : Lookup) (setting : Setting) (default : String) : String :=
  match vars setting.key with
  | none => default
  | some raw => if (Text.trim raw.toList).isEmpty then default else raw

/-- The settings of the variables. -/
def load (tolerance : Tolerance) (vars : Lookup) : Loading Config := do
  let defaults := Config.standard
  let staging ← wordSetting tolerance vars (.port .staging) defaults.ports.staging
  let test ← wordSetting tolerance vars (.port .test) defaults.ports.test
  let dev ← wordSetting tolerance vars (.port .dev) defaults.ports.dev
  let main ← wordSetting tolerance vars (.port .main) defaults.ports.main
  let requestTimeoutMs ← wordSetting tolerance vars .requestTimeout defaults.requestTimeoutMs
  return {
    baseUrl := urlSetting vars .baseUrl defaults.baseUrl
    ports := { staging, test, dev, main }
    oracleUrl := urlSetting vars .oracleUrl defaults.oracleUrl
    requestTimeoutMs }

/-- The settings of the variables; the first bad one is a failure. -/
def loadStrict (vars : Lookup) : Except BadSetting Config :=
  (load .strict vars).result

/-- The settings of the variables, bad ones being ignored, and a warning for each of these.  All
settings would be the standard ones if loading failed. -/
def loadLenient (vars : Lookup) : Config × List IgnoredSetting :=
  let loading := load .lenient vars
  (loading.result.toOption.getD standard, loading.ignored)

/-- Settings as they are written in JSON. -/
def record : Json.Record Config where
  name := "ExplorerConfig"
  empty := standard
  fields := [
    .filled "base_url" .string (·.baseUrl) ({ · with baseUrl := · }),
    .filled "ports" Ports.record.codec (·.ports) ({ · with ports := · }),
    .filled "oracle_url" .string (·.oracleUrl) ({ · with oracleUrl := · }),
    .filled "request_timeout_ms" (.word .u64)
      (·.requestTimeoutMs) ({ · with requestTimeoutMs := · })]

end Config

end LedgerLookup
