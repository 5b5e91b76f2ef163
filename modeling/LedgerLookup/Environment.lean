import LedgerLookup.Config
import LedgerLookup.Dotenv
import LedgerLookup.Text.Utf8

/-!
# Process environments

The variables of a process, whose values are bytes, and the settings that come from them together
with a file of variables.  A variable whose bytes are not UTF-8 counts as unset.  The file only
adds variables: one that the process sets is never taken from it.
-/

namespace LedgerLookup

/-- The variables of a process and the file of variables beside it. -/
structure Environment where
  vars : List (String × List UInt8) := []
  file : String := ""

namespace Environment

/-- The value of a variable of the process, if it can be read. -/
def process? (e : Environment) : Lookup := fun key =>
  ((e.vars.lookup key).bind Text.Utf8.decode?).map String.ofList

/-- The value of a variable once the file has been taken into account. -/
def get? (e : Environment) : Lookup :=
  Dotenv.load e.process? (Dotenv.lines e.file)

/-- The variable that names the host. -/
def hostKey : String := "EXPLORER_HOST"

/-- The host that the process runs under, as long as no settings have been read.  Reading them adds
the variables of the file to the process, and from then on this one is taken from there if need
be. -/
def host (e : Environment) : String :=
  (e.process? hostKey).getD ""

/-- The settings of the environment, bad ones being ignored with a warning. -/
def config (e : Environment) : Config × List IgnoredSetting :=
  Config.loadLenient e.get?

/-- The settings of the environment; the first bad one is a failure. -/
def configStrict (e : Environment) : Except BadSetting Config :=
  Config.loadStrict e.get?

end Environment

end LedgerLookup
