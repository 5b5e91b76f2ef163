import LedgerLookup.Client.Lookup

/-!
# Flights

Lookups of one client that are under way at the same time, while the replies to their requests are
still out.  What happens is a list of events in any order: a lookup starts, the reply to a request
comes in, time passes.  Requests are told apart by their tickets, which count them from zero, and
every lookup remembers the ticket of its own request.
-/

namespace LedgerLookup

open Http (Reply)

/-- Something that happens while lookups are under way.  A reply is for the request with a
ticket. -/
inductive FlightEvent where
  | start (request : LookupRequest)
  | reply (ticket : Nat) (outcome : Except Failure Reply)
  | pass (time : Nat)

/-- The lookup that an event starts. -/
def FlightEvent.request? : FlightEvent → Option LookupRequest
  | start request => some request
  | _ => none

/-- Where a lookup stands: it made no request, or it waits for the reply to its request, or it is
over. -/
inductive Progress where
  | refused (failure : Failure)
  | waiting (ticket : Nat) (sent : Sent) (waited : Nat)
  | ended (ticket : Nat) (answer : Except Failure Resolved)

namespace Progress

/-- The answer of a lookup, once it has one. -/
def answer? : Progress → Option (Except Failure Resolved)
  | refused failure => some (.error failure)
  | waiting .. => none
  | ended _ answer => some answer

/-- The ticket of the request that a lookup has made. -/
def ticket? : Progress → Option Nat
  | refused _ => none
  | waiting ticket .. | ended ticket _ => some ticket

/-- Where a lookup stands after an event.  One that waits reads a reply to its own request, and
gives up when it has waited for too long. -/
def step : Progress → FlightEvent → Progress
  | waiting own sent waited, .reply ticket outcome =>
    if ticket = own then ended own (sent.answer outcome waited) else waiting own sent waited
  | waiting own sent waited, .pass time =>
    if sent.givesUp (waited + time) then ended own (.error sent.expiry)
    else waiting own sent (waited + time)
  | progress, _ => progress

/-- Where a lookup stands after some events. -/
def follow (progress : Progress) (events : List FlightEvent) : Progress :=
  events.foldl step progress

end Progress

/-- A client whose lookups are under way, in the order of their starts.  In place of a transport
stand the URLs that have been requested. -/
structure Flight where
  client : Client (List String)
  lookups : List Progress := []

namespace Flight

/-- The URLs that have been requested; the ticket of a request is its place among them. -/
def requests (f : Flight) : List String := f.client.transport

/-- Starts one more lookup, with a request of its own. -/
def start (f : Flight) (request : LookupRequest) : Flight :=
  let prepared := f.client.requestUrl request
  match prepared.answer with
  | .error e => ⟨prepared.state, f.lookups ++ [.refused e]⟩
  | .ok url =>
    ⟨{ prepared.state with transport := prepared.state.transport ++ [url] },
      f.lookups ++ [.waiting prepared.state.transport.length (request.sent url) 0]⟩

/-- A flight after an event. -/
def step (f : Flight) (event : FlightEvent) : Flight :=
  let moved := { f with lookups := f.lookups.map (·.step event) }
  match event with
  | .start request => moved.start request
  | _ => moved

/-- A flight after some events. -/
def run (f : Flight) (events : List FlightEvent) : Flight :=
  events.foldl step f

end Flight

/-- A client with nothing under way. -/
def Client.flight {τ : Type} (c : Client τ) : Flight :=
  ⟨⟨c.locator, c.hosts, []⟩, []⟩

end LedgerLookup
