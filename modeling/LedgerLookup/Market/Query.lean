import LedgerLookup.Client.Lookup
import LedgerLookup.Market.Oracle

/-!
# Market queries

Data for dashboards: the price of an asset, from an oracle, and the swap snapshot of the explorer
service. A price that cannot be had is a failure, since no default would be sensible; a snapshot
that cannot be had is missing, with a warning.  The two kinds of query share nothing.
-/

namespace LedgerLookup

open Http (Transport)

/-- The path of the swap snapshot. -/
def swapPath : String := "/explorer/swap"

/-- A market query: where the explorer service is, what carries the requests to it, and the
oracle. -/
structure Market (τ : Type) where
  locator : Locator
  hosts : HostSupplier
  transport : τ
  oracle : Oracle

namespace Market

variable {τ : Type}

/-- A market query with the given settings, over the exchange-rates oracle that they name. -/
def ofConfig (config : Config) (hosts : HostSupplier) (transport : τ) (network : Http.Network) :
    Market τ :=
  ⟨.ofBase config.baseUrl config.ports, hosts, transport,
    .exchangeRates (.ofBase config.oracleUrl network)⟩

/-- The client of the explorer service inside a market query. -/
def client (m : Market τ) : Client τ :=
  ⟨m.locator, m.hosts, m.transport⟩

/-- The market query with another client inside. -/
def withClient (m : Market τ) (c : Client τ) : Market τ :=
  { m with locator := c.locator, hosts := c.hosts, transport := c.transport }

/-- The market query with another oracle. -/
def withOracle (m : Market τ) (oracle : Oracle) : Market τ :=
  { m with oracle }

/-- The market query with another supplier of hosts. -/
def withHosts (m : Market τ) (hosts : HostSupplier) : Market τ :=
  { m with hosts }

/-- The endpoint of the host at this moment. -/
def endpoint (m : Market τ) : Step (Market τ) Endpoint :=
  let step := m.client.endpoint
  ⟨step.answer, step.log, m.withClient step.state⟩

/-- The price of one unit of an asset in US dollars. -/
def quotePrice (m : Market τ) (currency : String) : Step (Market τ) (Except Failure Decimal) :=
  let (answer, log, oracle) := m.oracle.ask currency usd
  let target := m.oracle.id ++ ":" ++ currency
  ⟨(answer.map Rate.price).mapError (Failure.ofRateError target), log, m.withOracle oracle⟩

variable [Transport τ]

/-- Asks for the swap snapshot at the endpoint of the host. -/
def fetchSwap (m : Market τ) : Step (Market τ) (Except Failure Json.Value) :=
  let located := m.client.endpoint
  let url := located.answer.url swapPath
  let sent := located.state.send url
  ⟨sent.answer.outcome.bind fun reply => reply.decode .any url, located.log ++ sent.log,
    m.withClient sent.state⟩

/-- The swap snapshot, or nothing and a warning when it cannot be had. -/
def swapSnapshot (m : Market τ) : Step (Market τ) (Option Json.Value) :=
  let fetched := m.fetchSwap
  match fetched.answer with
  | .ok value => ⟨some value, fetched.log, fetched.state⟩
  | .error e => ⟨none, fetched.log ++ [.noSnapshot e], fetched.state⟩

end Market

/-- Something that is done with a market query. -/
inductive MarketAction where
  | useHosts (hosts : HostSupplier)
  | endpoint
  | swap
  | quote (currency : String)

/-- What an action answers. -/
inductive MarketAnswer where
  | done
  | endpoint (e : Endpoint)
  | snapshot (value : Option Json.Value)
  | price (answer : Except Failure Decimal)

namespace Market

variable {τ : Type} [Transport τ]

/-- Does one thing with a market query. -/
def act (m : Market τ) : MarketAction → Step (Market τ) MarketAnswer
  | .useHosts hosts => ⟨.done, [], m.withHosts hosts⟩
  | .endpoint =>
    let step := m.endpoint
    ⟨.endpoint step.answer, step.log, step.state⟩
  | .swap =>
    let step := m.swapSnapshot
    ⟨.snapshot step.answer, step.log, step.state⟩
  | .quote currency =>
    let step := m.quotePrice currency
    ⟨.price step.answer, step.log, step.state⟩

/-- Does several things with a market query, one after another. -/
def run (m : Market τ) : List MarketAction → Step (Market τ) (List MarketAnswer)
  | [] => ⟨[], [], m⟩
  | action :: rest =>
    let first := m.act action
    let others := run first.state rest
    ⟨first.answer :: others.answer, first.log ++ others.log, others.state⟩

end Market

end LedgerLookup
