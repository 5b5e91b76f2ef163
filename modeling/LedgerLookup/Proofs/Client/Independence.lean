import LedgerLookup.Proofs.Client.Serving

/-!
# Independence of lookups

Lookups that are under way at the same time do not notice each other.  Whatever starts, replies and
waits happen in whatever order, each lookup answers as it does alone; and when the replies come as
a transport gives them to one request after another, the answers and the requests are those of the
same lookups made one after another.
-/

namespace LedgerLookup.Client

open Http (Recorder Transport)
open FlightEvent (starts elapsed arrival)

variable {τ : Type} [Transport τ]

/-- What holds of the lookups of a client that are under way at the same time. -/
structure Independent (c : Client (Recorder τ)) (events : List FlightEvent) : Prop where
  /-- Every lookup has a place of its own, in the order of the starts. -/
  places : (c.flight.run events).lookups.length = (starts events).length
  /-- A lookup answers as it does alone, under the host that was read for it and with the first
  reply to its own request.  Without that reply it answers only when its time is up, and then as it
  does alone with any reply that is still to come. -/
  answers : ∀ before r after, events = before ++ .start r :: after →
    let readings := c.hosts.readings + (starts before).countP LookupRequest.readsHost
    let alone := r.alone c.locator (c.hosts.host readings)
    let ticket := (c.flight.run before).requests.length
    let answer := (c.flight.run events).lookups[(starts before).length]?.bind Progress.answer?
    (∀ x, arrival ticket 0 after = some x → answer = some (alone x)) ∧
    (arrival ticket 0 after = none → ∀ x, elapsed after < x.delay →
      answer = none ∨ answer = some (alone x)) ∧
    (answer = none ↔ (∃ w, r.page.window = .ok w) ∧ arrival ticket 0 after = none ∧
      ∀ patience, r.mode.patience? = some patience → elapsed after ≤ patience)
  /-- A lookup whose page can be sent makes a request of its own when it starts, whatever else is
  under way, and is the one that has the ticket of this request; no other lookup makes any. -/
  requests : ∀ before r after, events = before ++ .start r :: after →
    let readings := c.hosts.readings + (starts before).countP LookupRequest.readsHost
    let url? := r.url? c.locator (c.hosts.host readings)
    let earlier := (c.flight.run before).requests
    (c.flight.run (before ++ [.start r])).requests = earlier ++ url?.toList ∧
    (c.flight.run events).lookups[(starts before).length]?.bind Progress.ticket? =
      url?.map fun _ => earlier.length
  /-- Nothing else is requested. -/
  quiet : ∀ before event after, events = before ++ event :: after → event.request? = none →
    (c.flight.run (before ++ [event])).requests = (c.flight.run before).requests
  /-- The tickets of the lookups are the places of the requests, each once. -/
  tickets : (c.flight.run events).Ticketed
  /-- A reply moves one lookup at most. -/
  replies : ∀ before ticket outcome after, events = before ++ .reply ticket outcome :: after →
    let f := c.flight.run before
    let g := f.step (.reply ticket outcome)
    ∀ i j : Nat, g.lookups[i]? ≠ f.lookups[i]? → g.lookups[j]? ≠ f.lookups[j]? → i = j
  /-- The requests are those of the same lookups made one after another. -/
  requests_in_order : (c.run ((starts events).map .resolve)).state.transport.requests =
    c.transport.requests ++ (c.flight.run events).requests
  /-- The answers are, too, when the replies are those of the transport to one request after
  another. -/
  answers_in_order : c.Serves 0 events →
    ((c.flight.run events).lookups.map fun p => p.answer?.map ClientAnswer.resolved) =
      (c.run ((starts events).map .resolve)).answer.map some
  /-- Such replies can be had for any lookups, and even after all of them have been started. -/
  served : ∃ later, starts later = [] ∧ c.Serves 0 ((starts events).map .start ++ later)
  /-- Lookups made together with a transport at hand are such a flight as well. -/
  together : (c.resolveTogether (starts events)).answer.map .resolved =
      (c.run ((starts events).map .resolve)).answer ∧
    (c.resolveTogether (starts events)).state = (c.run ((starts events).map .resolve)).state

/-- **Lookups that are under way at the same time are independent**, whatever happens to them and
in whatever order. -/
theorem flight_independent (c : Client (Recorder τ)) (events : List FlightEvent) :
    Independent c events where
  places := c.flight_lookups_length events
  answers := by
    rintro before r after rfl readings alone ticket answer
    have hanswer : answer = (((c.flight.run before).launch r).follow after).answer? := by
      simp only [answer, c.flight_lookup_at before r after, Option.bind_some]
    have halone : ∀ x, alone x =
        r.alone (c.flight.run before).client.locator (c.flight.run before).client.hosts.current x :=
      fun x => by rw [c.flight_locator, c.flight_host]
    refine ⟨fun x hx => ?_, fun hnone x hlate => ?_, ?_⟩
    · rw [hanswer, halone]
      exact (c.flight.run before).launch_answer?_of_arrival r hx
    · rw [hanswer, halone]
      exact (c.flight.run before).launch_answer?_of_no_arrival r hnone hlate
    · rw [hanswer]
      exact (c.flight.run before).launch_answer?_eq_none_iff r after
  requests := by
    rintro before r after rfl readings url? earlier
    refine ⟨?_, ?_⟩
    · rw [Flight.run_append, Flight.run_cons, Flight.run_nil, Flight.step_start, Flight.start_eq,
        c.flight_locator, c.flight_host]
      rfl
    · rw [c.flight_lookup_at, Option.bind_some, Progress.ticket?_follow, Flight.launch_ticket?,
        c.flight_locator, c.flight_host]
  quiet := by
    intro before event after _ hquiet
    rw [Flight.run_append, Flight.run_cons, Flight.run_nil, Flight.requests,
      Flight.step_client hquiet]
    rfl
  tickets := c.flight_ticketed.run events
  replies := by
    intro before ticket outcome after _ f g i j hi hj
    have hticketed : f.Ticketed := c.flight_ticketed.run before
    exact hticketed.eq_of_moved hi hj
  requests_in_order := by
    have habreast : c.Abreast c.flight := ⟨rfl, rfl⟩
    obtain ⟨urls, hflight, hrun⟩ := habreast.run_requests events
    rw [hrun, hflight]
    rfl
  answers_in_order := fun hserves => Serves.run_answers (f := c.flight) hserves ⟨rfl, rfl⟩
  served := by
    obtain ⟨later, hquiet, -, hserves⟩ := c.exists_serves 0 (starts events)
    exact ⟨later, hquiet, hserves⟩
  together := foldl_start { client := c } (starts events)

end LedgerLookup.Client
