import LedgerLookup.Client.Flight
import LedgerLookup.Proofs.Client.Lookup
import Mathlib.Data.List.Basic

/-!
# What happens in a flight

Every lookup of a flight goes its own way: where it stands depends on its start and on the events
after it, and of the replies only on the first one to its own request.  The client is changed by
starts alone, and each start changes it as a lookup on its own does.  The invariant behind this is
that the tickets of a flight are given out one after another, so no two lookups have the same.
-/

namespace LedgerLookup

open Http (Exchange Reply)

/-! ### Events -/

namespace FlightEvent

/-- The lookups that some events start, in order. -/
def starts (events : List FlightEvent) : List LookupRequest :=
  events.filterMap request?

/-- The time that passes in some events. -/
def elapsed : List FlightEvent → Nat
  | [] => 0
  | pass time :: rest => time + elapsed rest
  | _ :: rest => elapsed rest

/-- The first reply to the request with a ticket, and when it comes: after the given time and what
passes until then. -/
def arrival (own : Nat) : Nat → List FlightEvent → Option Exchange
  | _, [] => none
  | waited, start _ :: rest => arrival own waited rest
  | waited, reply ticket outcome :: rest =>
    if ticket = own then some { outcome, delay := waited } else arrival own waited rest
  | waited, pass time :: rest => arrival own (waited + time) rest

@[simp] theorem starts_nil : starts [] = [] := rfl

@[simp] theorem starts_start (r : LookupRequest) (rest : List FlightEvent) :
    starts (start r :: rest) = r :: starts rest := rfl

@[simp] theorem starts_reply (ticket : Nat) (outcome : Except Failure Reply)
    (rest : List FlightEvent) : starts (reply ticket outcome :: rest) = starts rest := rfl

@[simp] theorem starts_pass (time : Nat) (rest : List FlightEvent) :
    starts (pass time :: rest) = starts rest := rfl

theorem starts_cons_of_quiet {event : FlightEvent} (hquiet : event.request? = none)
    (rest : List FlightEvent) : starts (event :: rest) = starts rest :=
  List.filterMap_cons_none hquiet

/-- No reply comes before its request has been made. -/
theorem le_delay_of_arrival {own waited : Nat} {events : List FlightEvent} {x : Exchange}
    (hx : arrival own waited events = some x) : waited ≤ x.delay := by
  induction events generalizing waited with
  | nil => cases hx
  | cons event rest ih =>
    cases event with
    | start r => exact ih hx
    | pass time => exact Nat.le_trans (Nat.le_add_right waited time) (ih hx)
    | reply ticket outcome =>
      rw [arrival] at hx
      split at hx
      · cases hx
        exact Nat.le_refl waited
      · exact ih hx

end FlightEvent

open FlightEvent (starts elapsed arrival)

/-! ### One lookup -/

namespace Progress

@[simp] theorem follow_nil (p : Progress) : p.follow [] = p := rfl

@[simp] theorem follow_cons (p : Progress) (event : FlightEvent) (rest : List FlightEvent) :
    p.follow (event :: rest) = (p.step event).follow rest := rfl

@[simp] theorem step_start (p : Progress) (r : LookupRequest) : p.step (.start r) = p := by
  cases p <;> rfl

@[simp] theorem ticket?_step (p : Progress) (event : FlightEvent) :
    (p.step event).ticket? = p.ticket? := by
  fun_cases step p event <;> rfl

/-- A lookup keeps its ticket. -/
@[simp] theorem ticket?_follow (p : Progress) (events : List FlightEvent) :
    (p.follow events).ticket? = p.ticket? := by
  induction events generalizing p with
  | nil => rfl
  | cons event rest ih => rw [follow_cons, ih, ticket?_step]

/-- A lookup that made no request waits for nothing. -/
theorem follow_refused (e : Failure) (events : List FlightEvent) :
    (refused e).follow events = refused e := by
  induction events with
  | nil => rfl
  | cons event rest ih => cases event <;> exact ih

/-- A lookup that is over stays so. -/
theorem follow_ended (ticket : Nat) (answer : Except Failure Resolved)
    (events : List FlightEvent) : (ended ticket answer).follow events = ended ticket answer := by
  induction events with
  | nil => rfl
  | cons event rest ih => cases event <;> exact ih

/-- **What becomes of a lookup that waits**: the first reply to its own request decides, and when
there is none, the time. -/
theorem follow_waiting {own waited : Nat} {s : Sent} (hwaits : s.givesUp waited = false)
    (events : List FlightEvent) :
    (waiting own s waited).follow events =
      match arrival own waited events with
      | some x => ended own (s.answer x.outcome x.delay)
      | none =>
        if s.givesUp (waited + elapsed events) then ended own (.error s.expiry)
        else waiting own s (waited + elapsed events) := by
  induction events generalizing waited with
  | nil => simp [arrival, elapsed, hwaits]
  | cons event rest ih =>
    cases event with
    | start r =>
      rw [follow_cons, step_start, ih hwaits]
      rfl
    | reply ticket outcome =>
      rw [follow_cons, step, arrival]
      by_cases hown : ticket = own
      · rw [if_pos hown, if_pos hown, follow_ended]
      · rw [if_neg hown, if_neg hown, ih hwaits]
        rfl
    | pass time =>
      rw [follow_cons, step, arrival, elapsed, ← Nat.add_assoc]
      cases hgive : s.givesUp (waited + time) with
      | false => exact ih hgive
      | true =>
        -- the lookup is over, and a reply that comes after this would be too late on its own, too
        rw [if_pos rfl, follow_ended]
        cases hx : arrival own (waited + time) rest with
        | none =>
          have hlate := Sent.givesUp_mono hgive (Nat.le_add_right (waited + time) (elapsed rest))
          simp [hlate]
        | some x =>
          have hlate := Sent.givesUp_mono hgive (FlightEvent.le_delay_of_arrival hx)
          simp [Sent.answer_of_givesUp hlate]

/-- A lookup moves at a reply only if it waits for it. -/
theorem ticket?_of_step_reply_ne {p : Progress} {ticket : Nat} {outcome : Except Failure Reply}
    (hmove : p.step (.reply ticket outcome) ≠ p) : p.ticket? = some ticket := by
  cases p with
  | refused e => exact absurd rfl hmove
  | ended own answer => exact absurd rfl hmove
  | waiting own s waited =>
    by_cases hown : ticket = own
    · rw [hown]
      rfl
    · exact absurd (if_neg hown) hmove

end Progress

/-! ### A whole flight -/

namespace Flight

/-- A lookup as it starts. -/
def launch (f : Flight) (r : LookupRequest) : Progress :=
  match r.page.window with
  | .error e => .refused (.invalidPage e)
  | .ok w =>
    .waiting f.requests.length (r.sent (r.urlAt f.client.locator f.client.hosts.current w)) 0

theorem launch_of_error (f : Flight) {r : LookupRequest} {e : Page.Invalid}
    (h : r.page.window = .error e) : f.launch r = .refused (.invalidPage e) := by
  simp [launch, h]

theorem launch_of_ok (f : Flight) {r : LookupRequest} {w : Window} (h : r.page.window = .ok w) :
    let url := r.urlAt f.client.locator f.client.hosts.current w
    f.launch r = .waiting f.requests.length (r.sent url) 0 := by
  simp [launch, h]

/-- The client changes at a start as it does at a lookup on its own. -/
theorem start_eq (f : Flight) (r : LookupRequest) :
    f.start r =
      ⟨⟨f.client.locator, f.client.hosts.readIf r.readsHost,
          f.requests ++ (r.url? f.client.locator f.client.hosts.current).toList⟩,
        f.lookups ++ [f.launch r]⟩ := by
  cases hw : r.page.window with
  | error e =>
    simp [start, requests, f.launch_of_error hw, Client.requestUrl_of_error hw,
      r.readsHost_of_error hw, r.url?_of_error hw]
  | ok w =>
    simp [start, requests, f.launch_of_ok hw, Client.requestUrl_of_ok hw, r.url?_of_ok hw,
      Client.withHosts]

theorem step_start (f : Flight) (r : LookupRequest) : f.step (.start r) = f.start r := by
  have hlookups : f.lookups.map (·.step (.start r)) = f.lookups := by
    simp [Progress.step_start]
  rw [step, hlookups]

/-- Nothing but a start changes the client. -/
theorem step_client {event : FlightEvent} (hquiet : event.request? = none) (f : Flight) :
    (f.step event).client = f.client := by
  cases event with
  | start r => cases hquiet
  | reply ticket outcome => rfl
  | pass time => rfl

@[simp] theorem run_nil (f : Flight) : f.run [] = f := rfl

@[simp] theorem run_cons (f : Flight) (event : FlightEvent) (rest : List FlightEvent) :
    f.run (event :: rest) = (f.step event).run rest := rfl

theorem run_append (f : Flight) (before after : List FlightEvent) :
    f.run (before ++ after) = (f.run before).run after :=
  List.foldl_append

/-- The lookups that are under way go on, each by itself, and others come after them. -/
theorem step_lookups (f : Flight) (event : FlightEvent) :
    (f.step event).lookups =
      f.lookups.map (·.step event) ++ (event.request?.map f.launch).toList := by
  cases event with
  | start r => simp [step_start, start_eq, FlightEvent.request?]
  | reply ticket outcome => exact (List.append_nil _).symm
  | pass time => exact (List.append_nil _).symm

theorem run_lookups (f : Flight) (events : List FlightEvent) :
    ∃ others, others.length = (starts events).length ∧
      (f.run events).lookups = f.lookups.map (·.follow events) ++ others := by
  induction events generalizing f with
  | nil => exact ⟨[], rfl, by simp⟩
  | cons event rest ih =>
    obtain ⟨others, hlength, hothers⟩ := ih (f.step event)
    refine ⟨((event.request?.map f.launch).toList.map (·.follow rest)) ++ others, ?_, ?_⟩
    · cases event <;> simp [FlightEvent.request?, hlength]
    · rw [run_cons, hothers, step_lookups, List.map_append, List.map_map, List.append_assoc]
      rfl

theorem run_lookups_length (f : Flight) (events : List FlightEvent) :
    (f.run events).lookups.length = f.lookups.length + (starts events).length := by
  obtain ⟨others, hlength, hothers⟩ := f.run_lookups events
  rw [hothers, List.length_append, List.length_map, hlength]

/-- **A lookup goes its own way from its start on.** -/
theorem run_lookup_at (f : Flight) (before : List FlightEvent) (r : LookupRequest)
    (after : List FlightEvent) :
    (f.run (before ++ .start r :: after)).lookups[(f.run before).lookups.length]? =
      some (((f.run before).launch r).follow after) := by
  obtain ⟨others, -, hothers⟩ := ((f.run before).start r).run_lookups after
  rw [run_append, run_cons, step_start, hothers, start_eq, List.map_append, List.append_assoc,
    List.getElem?_append_right (by simp)]
  simp

/-- The host that is read next depends on the lookups that have been started, and on nothing that
came of them. -/
theorem run_hosts (f : Flight) (events : List FlightEvent) :
    (f.run events).client.hosts =
      ⟨f.client.hosts.host,
        f.client.hosts.readings + (starts events).countP LookupRequest.readsHost⟩ := by
  induction events generalizing f with
  | nil => rfl
  | cons event rest ih =>
    cases event with
    | start r =>
      rw [run_cons, ih, step_start, start_eq, FlightEvent.starts_start, List.countP_cons]
      exact f.client.hosts.readIf_then r.readsHost _
    | reply ticket outcome => exact ih _
    | pass time => exact ih _

theorem run_locator (f : Flight) (events : List FlightEvent) :
    (f.run events).client.locator = f.client.locator := by
  induction events generalizing f with
  | nil => rfl
  | cons event rest ih =>
    cases event with
    | start r => rw [run_cons, ih, step_start, start_eq]
    | reply ticket outcome => exact ih _
    | pass time => exact ih _

/-! ### Tickets -/

/-- The tickets that have been given out. -/
def tickets (f : Flight) : List Nat := f.lookups.filterMap Progress.ticket?

/-- Each request has a ticket, and each ticket one lookup. -/
def Ticketed (f : Flight) : Prop := f.tickets = List.range f.requests.length

theorem launch_ticket? (f : Flight) (r : LookupRequest) :
    (f.launch r).ticket? =
      (r.url? f.client.locator f.client.hosts.current).map fun _ => f.requests.length := by
  cases hw : r.page.window with
  | error e =>
    rw [f.launch_of_error hw, r.url?_of_error hw]
    rfl
  | ok w =>
    rw [f.launch_of_ok hw, r.url?_of_ok hw]
    rfl

theorem Ticketed.step {f : Flight} (h : f.Ticketed) (event : FlightEvent) :
    (f.step event).Ticketed := by
  have hkept : (f.lookups.map (·.step event)).filterMap Progress.ticket? = f.tickets := by
    rw [List.filterMap_map]
    exact List.filterMap_congr fun p _ => p.ticket?_step event
  -- a lookup that moves keeps its ticket, and one that starts takes the next
  unfold Ticketed at h ⊢
  rw [tickets, step_lookups, List.filterMap_append, hkept, h]
  cases event with
  | start r =>
    rw [step_start, start_eq]
    simp only [FlightEvent.request?, Option.map_some, Option.toList_some, requests,
      List.filterMap_cons, List.filterMap_nil, launch_ticket?]
    cases r.url? f.client.locator f.client.hosts.current with
    | none => simp
    | some url => simp [List.range_succ]
  | reply ticket outcome => exact List.append_nil _
  | pass time => exact List.append_nil _

theorem Ticketed.run {f : Flight} (h : f.Ticketed) (events : List FlightEvent) :
    (f.run events).Ticketed := by
  induction events generalizing f with
  | nil => exact h
  | cons event rest ih => exact ih (h.step event)

/-- No two lookups have the same ticket. -/
theorem Ticketed.eq_of_ticket? {f : Flight} (h : f.Ticketed) {i j ticket : Nat} {p q : Progress}
    (hp : f.lookups[i]? = some p) (hq : f.lookups[j]? = some q)
    (hpt : p.ticket? = some ticket) (hqt : q.ticket? = some ticket) : i = j := by
  have hnodup : f.tickets.Nodup := by
    rw [h]
    exact List.nodup_range
  obtain ⟨hi, rfl⟩ := List.getElem?_eq_some_iff.mp hp
  obtain ⟨hj, rfl⟩ := List.getElem?_eq_some_iff.mp hq
  have hpair := List.pairwise_iff_getElem.mp (List.pairwise_filterMap.mp hnodup)
  rcases Nat.lt_trichotomy i j with hlt | heq | hlt
  · exact absurd rfl (hpair i j hi hj hlt ticket hpt ticket hqt)
  · exact heq
  · exact absurd rfl (hpair j i hj hi hlt ticket hqt ticket hpt)

/-- **No reply is used twice**: two lookups that move at one reply are the same. -/
theorem Ticketed.eq_of_moved {f : Flight} (h : f.Ticketed) {ticket i j : Nat}
    {outcome : Except Failure Reply}
    (hi : (f.step (.reply ticket outcome)).lookups[i]? ≠ f.lookups[i]?)
    (hj : (f.step (.reply ticket outcome)).lookups[j]? ≠ f.lookups[j]?) : i = j := by
  have hticket : ∀ k : Nat, (f.step (.reply ticket outcome)).lookups[k]? ≠ f.lookups[k]? →
      ∃ p : Progress, f.lookups[k]? = some p ∧ p.ticket? = some ticket := by
    intro k hk
    have hstep : (f.step (.reply ticket outcome)).lookups[k]? =
        f.lookups[k]?.map (·.step (.reply ticket outcome)) := by
      simp [Flight.step]
    rw [hstep] at hk
    cases hp : f.lookups[k]? with
    | none => rw [hp] at hk; exact absurd rfl hk
    | some p =>
      refine ⟨p, rfl, ?_⟩
      refine Progress.ticket?_of_step_reply_ne fun heq : p.step (.reply ticket outcome) = p => hk ?_
      rw [hp, Option.map_some, heq]
  obtain ⟨p, hp, hpt⟩ := hticket i hi
  obtain ⟨q, hq, hqt⟩ := hticket j hj
  exact h.eq_of_ticket? hp hq hpt hqt

end Flight

/-! ### The flights of a client -/

namespace Client

variable {τ : Type}

theorem flight_ticketed (c : Client τ) : c.flight.Ticketed := rfl

theorem flight_lookups_length (c : Client τ) (events : List FlightEvent) :
    (c.flight.run events).lookups.length = (starts events).length := by
  rw [Flight.run_lookups_length]
  exact Nat.zero_add _

/-- The host that the next lookup would read. -/
theorem flight_host (c : Client τ) (events : List FlightEvent) :
    (c.flight.run events).client.hosts.current =
      c.hosts.host (c.hosts.readings + (starts events).countP LookupRequest.readsHost) := by
  rw [Flight.run_hosts]
  rfl

theorem flight_locator (c : Client τ) (events : List FlightEvent) :
    (c.flight.run events).client.locator = c.locator :=
  c.flight.run_locator events

theorem flight_lookup_at (c : Client τ) (before : List FlightEvent) (r : LookupRequest)
    (after : List FlightEvent) :
    (c.flight.run (before ++ .start r :: after)).lookups[(starts before).length]? =
      some (((c.flight.run before).launch r).follow after) := by
  rw [← c.flight_lookups_length before]
  exact c.flight.run_lookup_at before r after

end Client

end LedgerLookup
