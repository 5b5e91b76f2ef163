import LedgerLookup.Http.Network
import LedgerLookup.Http.Reason
import LedgerLookup.Log
import LedgerLookup.Market.Quote

/-!
# The exchange-rates oracle

A price oracle that answers with all rates of one asset at once.  What becomes of a request
decides the answer in a fixed order: whether an answer came, its status, its body, the rate for
the currency in it, and last whether that rate is a positive decimal.
-/

namespace LedgerLookup

open Http (Network RawReply Fault)

/-- The rates in an answer of the oracle, by currency. -/
structure RateTable where
  currency : Option String := none
  rates : List (String × String) := []

/-- Rate tables as they are written in JSON. -/
def RateTable.record : Json.Record RateTable where
  name := "RateTable"
  empty := {}
  fields := [
    .filled "currency" (.option .string) (·.currency) ({ · with currency := · }),
    .filled "rates" (.dictionary .string) (·.rates) ({ · with rates := · })]

/-- An answer of the oracle. -/
structure RateAnswer where
  data : RateTable := {}

/-- Answers of the oracle as they are written in JSON. -/
def RateAnswer.record : Json.Record RateAnswer where
  name := "RateAnswer"
  empty := {}
  fields := [.required "data" RateTable.record.codec (·.data) ({ · with data := · })]

/-- The oracle at a base, and the network that its requests go over. -/
structure ExchangeRates where
  baseUrl : String
  network : Network

namespace ExchangeRates

/-- The base of the oracle that is used when no other is configured. -/
def defaultBaseUrl : String := Config.standard.oracleUrl

/-- The name of the oracle. -/
def id : String := "EXCHANGE_RATES"

/-- The oracle at a base, whose trailing slashes do not count. -/
def ofBase (base : String) (network : Network) : ExchangeRates :=
  ⟨Text.withoutTrailingSlashes base, network⟩

/-- The URL of the rates of an asset. -/
def ratesUrl (o : ExchangeRates) (base : String) : String :=
  o.baseUrl ++ "/exchange-rates?currency=" ++ Text.Percent.encoded base

/-- The price that the text of a rate stands for: a positive decimal in either notation, blanks
around it not counting. -/
def parseRate (raw : String) : Except RateError Decimal :=
  let text := Text.trim raw.toList
  let shown := String.ofList text
  match Decimal.read text with
  | .error e => .error (.invalid ("Invalid rate '" ++ shown ++ "': " ++ e.message))
  | .ok price =>
    if price.isPositive then .ok price
    else .error (.invalid ("Non-positive rate '" ++ shown ++ "'"))

/-- The failure of an oracle that a fault is. -/
def ofFault : Fault → RateError
  | .timedOut _ => .timeout id
  | fault => .network fault

/-- An answer that cannot be read. -/
def unreadable : RateError :=
  .refused id none "error decoding response body"

/-- The rates in the body of an answer, the bytes being read as UTF-8. -/
def readBody (body : List UInt8) : Except RateError RateAnswer :=
  (RateAnswer.record.codec.ofDocument (.ofBytes body)).mapError fun _ => unreadable

/-- The rate of an asset in a currency that an answer gives. -/
def readReply (base quote : String) (reply : RawReply) : Except RateError Rate := do
  if reply.status = 429 then throw (.rateLimited id)
  if !Http.isSuccess reply.status then
    throw (.refused id (some reply.status)
      ("HTTP " ++ Text.decimal reply.status ++ " " ++ Http.reason reply.status))
  let body ← match reply.body with
    | some body => .ok body
    | none => .error unreadable
  let answer ← readBody body
  match answer.data.rates.lookup quote with
  | none => throw (.currencyNotFound (base ++ "/" ++ quote))
  | some raw =>
    let price ← parseRate raw
    return { base, quote, price, source := id }

/-- Asks for the rate of an asset in a currency. -/
def ask (o : ExchangeRates) (base quote : String) :
    Except RateError Rate × List LogLine × ExchangeRates :=
  let url := o.ratesUrl base
  let (result, network) := o.network.send url
  ((result.mapError ofFault).bind (readReply base quote), [.rateAsked base quote url],
    { o with network })

end ExchangeRates

end LedgerLookup
