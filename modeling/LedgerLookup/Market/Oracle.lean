import LedgerLookup.Market.ExchangeRates

/-!
# Price oracles

The oracles that a market query can be backed by: the exchange-rates oracle, or any other that
answers every pair of asset and currency in its own way, be it by a price that never changes or from
a queue of replies.
-/

namespace LedgerLookup

/-- The currency that prices are given in. -/
def usd : String := "USD"

/-- An oracle that answers by itself, with the pairs that it has been asked for.  An answer may
depend on the pairs before. -/
structure CustomOracle where
  id : String
  rate : List (String × String) → String → String → Except RateError Rate
  asked : List (String × String) := []

/-- A price oracle. -/
inductive Oracle where
  | exchangeRates (o : ExchangeRates)
  | custom (o : CustomOracle)

namespace Oracle

/-- The name of an oracle. -/
def id : Oracle → String
  | exchangeRates _ => ExchangeRates.id
  | custom o => o.id

/-- Asks an oracle for the rate of an asset in a currency. -/
def ask (base quote : String) : Oracle → Except RateError Rate × List LogLine × Oracle
  | exchangeRates o =>
    let (answer, log, o) := o.ask base quote
    (answer, log, exchangeRates o)
  | custom o =>
    (o.rate o.asked base quote, [], custom { o with asked := o.asked ++ [(base, quote)] })

end Oracle

end LedgerLookup
