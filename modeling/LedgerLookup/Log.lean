import LedgerLookup.Config
import LedgerLookup.Resource.Envelope

/-!
# Log lines

What the client reports while it works, as data, and the text of each line.
-/

namespace LedgerLookup

/-- A line of the log. -/
inductive LogLine where
  /-- A host was found to belong to a deployment. -/
  | located (host : String) (deployment : Deployment) (endpoint : Endpoint)
  /-- A lookup was answered. -/
  | resolved (identifier label : String)
  /-- A request is about to be sent to the explorer service. -/
  | requested (url : String)
  /-- A rate is about to be asked for. -/
  | rateAsked (base quote url : String)
  /-- A swap snapshot could not be had. -/
  | noSnapshot (failure : Failure)
  /-- A setting was ignored. -/
  | ignored (setting : IgnoredSetting)
deriving DecidableEq

/-- The text of a line, with its level in front. -/
def LogLine.text : LogLine → String
  | located host deployment endpoint =>
    "DEBUG Host '" ++ host ++ "' maps to " ++ deployment.name ++ " explorer at " ++
      endpoint.authority
  | resolved identifier label => "DEBUG Resolved '" ++ identifier ++ "' as " ++ label
  | requested url => "DEBUG [Explorer] GET " ++ url
  | rateAsked base quote url =>
    "DEBUG Fetching " ++ quote ++ " rate for " ++ base ++ " from " ++ url
  | noSnapshot failure => "WARN Swap snapshot unavailable: " ++ failure.message
  | ignored setting =>
    "WARN Ignoring invalid " ++ setting.setting.key ++ "='" ++ setting.raw ++ "', using " ++
      setting.fallback

end LedgerLookup
