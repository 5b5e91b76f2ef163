/-!
# Retry advice

Whether trying again could help.  Nothing in this library tries again by itself.
-/

namespace LedgerLookup

/-- What a caller may do after a failure. -/
inductive Retry where
  /-- The request is wrong or its answer will not change. -/
  | never
  /-- The failure may pass: try again after a while. -/
  | withBackoff
deriving DecidableEq, Repr

end LedgerLookup
