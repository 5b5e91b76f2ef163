/-!
# Variables

Named variables, as far as they can be read.
-/

namespace LedgerLookup

/-- The values of variables by name. -/
abbrev Lookup := String → Option String

/-- The variables after a value has been offered for one of them, which counts only when that one is
unset. -/
def Lookup.setDefault (vars : Lookup) (key value : String) : Lookup := fun k =>
  if k = key then (vars k).or (some value) else vars k

end LedgerLookup
