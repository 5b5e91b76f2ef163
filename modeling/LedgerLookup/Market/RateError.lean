import LedgerLookup.Http.Reply
import LedgerLookup.Retry

/-!
# Failures of a price oracle

Why an oracle gave no price, the wording of each cause, and whether asking again could help.
-/

namespace LedgerLookup

/-- Why an oracle gave no price. -/
inductive RateError where
  /-- The answer holds no rate for the pair. -/
  | currencyNotFound (pair : String)
  /-- The oracle asks to be asked less often. -/
  | rateLimited (provider : String)
  /-- The oracle did not answer in time. -/
  | timeout (provider : String)
  /-- The oracle refused, with a status, or its answer cannot be read, without one. -/
  | refused (provider : String) (status : Option Nat) (message : String)
  /-- The rate is not a usable price. -/
  | invalid (message : String)
  /-- The oracle could not be reached. -/
  | network (fault : Http.Fault)
deriving DecidableEq

namespace RateError

/-- The wording of a failure. -/
def message : RateError → String
  | currencyNotFound pair => "Currency not found: " ++ pair
  | rateLimited provider => "Rate limited: " ++ provider
  | timeout provider => "Timeout: " ++ provider
  | refused provider _ message => "Provider error: " ++ provider ++ " - " ++ message
  | invalid message => "Validation failed: " ++ message
  | network fault => "Network error: " ++ fault.message

/-- Whether asking again could help. -/
def retry : RateError → Retry
  | rateLimited _ | timeout _ | network _ => .withBackoff
  | refused _ (some status) _ => if 500 ≤ status then .withBackoff else .never
  | refused _ none _ | currencyNotFound _ | invalid _ => .never

end RateError

end LedgerLookup
