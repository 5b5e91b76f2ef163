import LedgerLookup.Json.Error
import LedgerLookup.Market.RateError
import LedgerLookup.Page

/-!
# Failures

The failures of lookups and queries.  Either the caller's input is refused before anything is
sent, or the exchange with a service fails; the kind of a failed exchange says which part of it
went wrong and decides the retry advice.  An unknown identifier is not a failure.
-/

namespace LedgerLookup

/-- Which part of an exchange went wrong. -/
inductive FetchKind where
  /-- No complete answer came. -/
  | transport
  /-- The answer did not come in time. -/
  | timeout
  /-- The service answered with a status that is no success. -/
  | status (code : Nat)
  /-- The body does not have the expected shape. -/
  | decode
deriving DecidableEq, Repr

/-- The wording of a kind. -/
def FetchKind.text : FetchKind → String
  | transport => "transport error"
  | timeout => "timed out"
  | status code => "HTTP " ++ Text.decimal code
  | decode => "malformed response body"

/-- What lies behind a failed exchange. -/
inductive Cause where
  | note (text : String)
  | json (e : Json.Error)
  | rate (e : RateError)
  | fault (f : Http.Fault)
deriving DecidableEq

/-- A failure of a lookup, a query or a configuration. -/
inductive Failure where
  /-- The exchange with `target` failed. -/
  | fetch (target : String) (kind : FetchKind) (cause : Option Cause)
  /-- The caller asked for an impossible page. -/
  | invalidPage (e : Page.Invalid)
  /-- A setting, given with its value, cannot be read. -/
  | invalidSetting (setting : String)
deriving DecidableEq

namespace Failure

/-- The wording of a failure. -/
def message : Failure → String
  | fetch target kind _ => "Fetch failed for " ++ target ++ ": " ++ kind.text
  | invalidPage e => "Invalid pagination: " ++ e.bound.name ++ " = " ++ Text.signedDecimal e.value
  | invalidSetting setting => "Invalid configuration value: " ++ setting

/-- The kind of a failed exchange. -/
def fetchKind? : Failure → Option FetchKind
  | fetch _ kind _ => some kind
  | _ => none

/-- What lies behind a failed exchange. -/
def cause? : Failure → Option Cause
  | fetch _ _ cause => cause
  | _ => none

/-- Whether an exchange failed. -/
def isFetch (f : Failure) : Bool :=
  f.fetchKind?.isSome

/-- Whether trying again could help. -/
def retry : Failure → Retry
  | fetch _ .transport _ | fetch _ .timeout _ => .withBackoff
  | fetch _ (.status code) _ => if code = 429 ∨ 500 ≤ code then .withBackoff else .never
  | fetch _ .decode _ | invalidPage _ | invalidSetting _ => .never

/-- The part of an exchange that a failure of an oracle stands for. -/
def kindOfRateError : RateError → FetchKind
  | .timeout _ => .timeout
  | .rateLimited _ => .status 429
  | .refused _ (some status) _ => .status status
  | .network _ => .transport
  | .refused _ none _ | .currencyNotFound _ | .invalid _ => .decode

/-- A failure of an oracle as a failed exchange with `target`. -/
def ofRateError (target : String) (e : RateError) : Failure :=
  .fetch target (kindOfRateError e) (some (.rate e))

end Failure

end LedgerLookup
