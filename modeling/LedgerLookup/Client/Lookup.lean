import LedgerLookup.Http.Body
import LedgerLookup.Http.Transport
import LedgerLookup.HostSupplier
import LedgerLookup.Text.Percent

/-!
# Lookups

Asking the explorer service what an identifier names.  A lookup starts with a check of its page,
before anything else happens; then the endpoint is found, from the host unless the caller gives
one; then one request is sent.  What is left is a pending lookup, which depends on nothing but its
own reply: it is finished by reading that reply, or by giving up on it.

The client sends each request once and keeps no answers.
-/

namespace LedgerLookup

open Http (Exchange Reply Transport)

/-- The path under which identifiers are looked up. -/
def hashPath : String := "/explorer/hash/"

/-- The URL of a lookup.  The identifier is one segment of the path, and the window is the query. -/
def hashUrl (endpoint : Endpoint) (identifier : String) (window : Window) : String :=
  endpoint.url (hashPath ++ Text.Percent.encoded identifier ++ "?" ++ window.query)

/-- How a lookup is made: at a given endpoint or at that of the host, for as long as it takes; or
at that of the host and within a time in milliseconds. -/
inductive LookupMode where
  | unbounded (endpoint : Option Endpoint)
  | within (patience : Nat)
deriving DecidableEq

/-- A lookup as a caller asks for it. -/
structure LookupRequest where
  identifier : String
  page : Page := {}
  mode : LookupMode := .unbounded none
deriving DecidableEq

/-- The endpoint that a lookup names itself. -/
def LookupMode.endpoint? : LookupMode → Option Endpoint
  | unbounded endpoint => endpoint
  | within _ => none

/-- The time that a lookup waits for its reply. -/
def LookupMode.patience? : LookupMode → Option Nat
  | unbounded _ => none
  | within patience => some patience

/-- A lookup whose request has been sent: what it is for, and how long it waits for the reply. -/
structure Sent where
  identifier : String
  url : String
  patience : Option Nat

namespace Sent

/-- Whether a lookup gives up before it has waited for a time. -/
def givesUp (s : Sent) (waited : Nat) : Bool :=
  match s.patience with
  | some patience => patience < waited
  | none => false

/-- The failure of a lookup that gives up. -/
def expiry (s : Sent) : Failure :=
  .fetch s.url .timeout (some (.note "deadline has elapsed"))

/-- The answer to a lookup whose reply has come. -/
def settle (s : Sent) (outcome : Except Failure Reply) : Except Failure Resolved := do
  let reply ← outcome
  let envelope ← reply.decode Envelope.codec s.url
  return envelope.classify s.identifier

/-- The answer to a lookup whose reply comes after a delay. -/
def answer (s : Sent) (outcome : Except Failure Reply) (delay : Nat) : Except Failure Resolved :=
  if s.givesUp delay then .error s.expiry else s.settle outcome

end Sent

/-- A lookup whose request has been sent, with the reply or failure that it will get, and when it
will get it. -/
structure Pending extends Sent where
  outcome : Except Failure Reply
  delay : Nat

namespace Pending

/-- The moment at which a lookup is over. -/
def moment (p : Pending) : Nat :=
  match p.patience with
  | some patience => min patience p.delay
  | none => p.delay

/-- The answer to a lookup. -/
def answer (p : Pending) : Except Failure Resolved :=
  p.toSent.answer p.outcome p.delay

/-- What is logged when a lookup is over. -/
def log (p : Pending) : List LogLine :=
  match p.answer with
  | .ok resolved => [.resolved p.identifier resolved.label]
  | .error _ => []

end Pending

/-- A lookup once its request for a URL has been sent. -/
def LookupRequest.sent (request : LookupRequest) (url : String) : Sent :=
  ⟨request.identifier, url, request.mode.patience?⟩

/-- The result of a step of a stateful object: what it answers, what it logs, and the state after
it. -/
structure Step (σ α : Type) where
  answer : α
  log : List LogLine
  state : σ

/-- A client of the explorer service. -/
structure Client (τ : Type) where
  locator : Locator
  hosts : HostSupplier
  transport : τ

namespace Client

variable {τ : Type}

/-- A client with the given settings. -/
def ofConfig (config : Config) (hosts : HostSupplier) (transport : τ) : Client τ :=
  ⟨.ofBase config.baseUrl config.ports, hosts, transport⟩

/-- The client with another supplier of hosts. -/
def withHosts (c : Client τ) (hosts : HostSupplier) : Client τ :=
  { c with hosts }

/-- The endpoint of the host at this moment; the supplier is read once. -/
def endpoint (c : Client τ) : Step (Client τ) Endpoint :=
  let host := c.hosts.current
  let endpoint := c.locator.locate host
  ⟨endpoint, [.located host (.ofHost host) endpoint], c.withHosts c.hosts.advance⟩

/-- The endpoint of a lookup: its own, or else that of the host. -/
def endpointFor (c : Client τ) (mode : LookupMode) : Step (Client τ) Endpoint :=
  match mode.endpoint? with
  | some endpoint => ⟨endpoint, [], c⟩
  | none => c.endpoint

/-- The URL of a lookup.  A page that cannot be sent ends the lookup before the host is read. -/
def requestUrl (c : Client τ) (request : LookupRequest) :
    Step (Client τ) (Except Failure String) :=
  match request.page.window with
  | .error e => ⟨.error (.invalidPage e), [], c⟩
  | .ok window =>
    let located := c.endpointFor request.mode
    ⟨.ok (hashUrl located.answer request.identifier window), located.log, located.state⟩

variable [Transport τ]

/-- Sends the request for a URL. -/
def send (c : Client τ) (url : String) : Step (Client τ) Exchange :=
  let (exchange, transport) := Transport.get c.transport url
  ⟨exchange, exchange.log, { c with transport }⟩

/-- Starts a lookup.  One without a URL ends at once and leaves the client as it is. -/
def start (c : Client τ) (request : LookupRequest) :
    Step (Client τ) (Except Failure Pending) :=
  let prepared := c.requestUrl request
  match prepared.answer with
  | .error e => ⟨.error e, prepared.log, prepared.state⟩
  | .ok url =>
    let sent := prepared.state.send url
    ⟨.ok ⟨request.sent url, sent.answer.outcome, sent.answer.delay⟩, prepared.log ++ sent.log,
      sent.state⟩

/-- Makes one lookup. -/
def resolve (c : Client τ) (request : LookupRequest) :
    Step (Client τ) (Except Failure Resolved) :=
  let started := c.start request
  match started.answer with
  | .error e => ⟨.error e, started.log, started.state⟩
  | .ok pending => ⟨pending.answer, started.log ++ pending.log, started.state⟩

end Client

end LedgerLookup
