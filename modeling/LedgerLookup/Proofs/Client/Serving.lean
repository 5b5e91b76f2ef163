import LedgerLookup.Client.Session
import LedgerLookup.Proofs.Client.Flight

/-!
# Flights that a transport serves

The answer of a lookup in a flight against its answer alone, and a whole flight against the same
lookups made one after another.  The two agree as soon as the replies are those that a transport
gives when it takes the requests in order, whatever the order in which the replies come; and any
lookups can be served so, even when all of them are started before the first reply.
-/

namespace LedgerLookup

open Http (Exchange Recorder Transport)
open FlightEvent (starts elapsed arrival)

/-! ### Alone -/

/-- An exchange as a transport: this is what becomes of every request. -/
instance : Transport Exchange where
  get exchange _ := (exchange, exchange)

/-- The answer of a lookup that is made alone, under a host and with what becomes of its
request. -/
def LookupRequest.alone (r : LookupRequest) (l : Locator) (host : String) (x : Exchange) :
    Except Failure Resolved :=
  ((⟨l, .fixed host, x⟩ : Client Exchange).resolve r).answer

theorem LookupRequest.alone_of_error {r : LookupRequest} {e : Page.Invalid}
    (h : r.page.window = .error e) (l : Locator) (host : String) (x : Exchange) :
    r.alone l host x = .error (.invalidPage e) :=
  congrArg Step.answer (Client.resolve_of_error ⟨l, .fixed host, x⟩ r h)

theorem LookupRequest.alone_of_ok {r : LookupRequest} {w : Window} (h : r.page.window = .ok w)
    (l : Locator) (host : String) (x : Exchange) :
    r.alone l host x = (r.sent (r.urlAt l host w)).answer x.outcome x.delay :=
  congrArg Step.answer (Client.resolve_of_ok ⟨l, .fixed host, x⟩ r h rfl)

namespace Flight

/-- A lookup whose reply has come answers as it does alone with this reply. -/
theorem launch_answer?_of_arrival (f : Flight) (r : LookupRequest) {after : List FlightEvent}
    {x : Exchange} (hx : arrival f.requests.length 0 after = some x) :
    ((f.launch r).follow after).answer? =
      some (r.alone f.client.locator f.client.hosts.current x) := by
  cases hw : r.page.window with
  | error e =>
    rw [f.launch_of_error hw, Progress.follow_refused, LookupRequest.alone_of_error hw]
    rfl
  | ok w =>
    rw [f.launch_of_ok hw, Progress.follow_waiting (Sent.givesUp_zero _), hx,
      LookupRequest.alone_of_ok hw]
    rfl

/-- A lookup whose reply has not come has no answer, or answers as it does alone with any reply
that is still to come. -/
theorem launch_answer?_of_no_arrival (f : Flight) (r : LookupRequest) {after : List FlightEvent}
    (hnone : arrival f.requests.length 0 after = none) {x : Exchange}
    (hlate : elapsed after < x.delay) :
    ((f.launch r).follow after).answer? = none ∨
      ((f.launch r).follow after).answer? =
        some (r.alone f.client.locator f.client.hosts.current x) := by
  cases hw : r.page.window with
  | error e =>
    right
    rw [f.launch_of_error hw, Progress.follow_refused, LookupRequest.alone_of_error hw]
    rfl
  | ok w =>
    rw [f.launch_of_ok hw, Progress.follow_waiting (Sent.givesUp_zero _), hnone,
      LookupRequest.alone_of_ok hw, Nat.zero_add]
    cases hgive : (r.sent (r.urlAt f.client.locator f.client.hosts.current w)).givesUp
        (elapsed after) with
    | false => exact Or.inl rfl
    | true =>
      right
      rw [Sent.answer_of_givesUp (Sent.givesUp_mono hgive (Nat.le_of_lt hlate))]
      rfl

/-- A lookup has no answer as long as it waits: its page could be sent, its reply has not come, and
its time is not up. -/
theorem launch_answer?_eq_none_iff (f : Flight) (r : LookupRequest) (after : List FlightEvent) :
    ((f.launch r).follow after).answer? = none ↔
      (∃ w, r.page.window = .ok w) ∧ arrival f.requests.length 0 after = none ∧
        ∀ patience, r.mode.patience? = some patience → elapsed after ≤ patience := by
  cases hw : r.page.window with
  | error e =>
    rw [f.launch_of_error hw, Progress.follow_refused]
    simp [Progress.answer?]
  | ok w =>
    rw [f.launch_of_ok hw, Progress.follow_waiting (Sent.givesUp_zero _), Nat.zero_add]
    cases hx : arrival f.requests.length 0 after with
    | some x => simp [Progress.answer?]
    | none =>
      cases hp : r.mode.patience? with
      | none => simp [LookupRequest.sent, Sent.givesUp, hp, Progress.answer?]
      | some patience =>
        by_cases hlate : patience < elapsed after
        · simp [LookupRequest.sent, Sent.givesUp, hp, Progress.answer?, hlate]
        · simp [LookupRequest.sent, Sent.givesUp, hp, Progress.answer?, hlate, Nat.not_lt.mp hlate]

end Flight

/-! ### One after another -/

namespace Client

variable {τ : Type} [Transport τ]

/-- The replies are those of the client's transport, which takes the requests in order; the first
of the requests to come has the given ticket. -/
def Serves (c : Client τ) (ticket : Nat) : List FlightEvent → Prop
  | [] => True
  | .start r :: rest =>
    let step := c.start r
    match step.answer with
    | .error _ => Serves step.state ticket rest
    | .ok p =>
      arrival ticket 0 rest = some { outcome := p.outcome, delay := p.delay } ∧
        Serves step.state (ticket + 1) rest
  | _ :: rest => Serves c ticket rest

theorem serves_start_of_error {c : Client τ} {r : LookupRequest} {e : Page.Invalid}
    (h : r.page.window = .error e) (ticket : Nat) (rest : List FlightEvent) :
    c.Serves ticket (.start r :: rest) ↔ c.Serves ticket rest := by
  rw [Serves, start_of_error h]

theorem serves_start_of_ok {c : Client τ} {r : LookupRequest} {w : Window}
    (h : r.page.window = .ok w) (ticket : Nat) (rest : List FlightEvent) :
    c.Serves ticket (.start r :: rest) ↔
      (let p := c.pending r (r.urlAt c.locator c.hosts.current w)
       arrival ticket 0 rest = some { outcome := p.outcome, delay := p.delay }) ∧
        (c.start r).state.Serves (ticket + 1) rest := by
  rw [Serves, start_of_ok h]

/-- Lookups that are started together answer, and leave the client, as they do one after
another. -/
theorem foldl_start (t : Together τ) (requests : List LookupRequest) :
    let together := requests.foldl Together.start t
    let step := t.client.run (requests.map .resolve)
    together.answers.map .resolved = t.answers.map .resolved ++ step.answer ∧
      together.client = step.state := by
  induction requests generalizing t with
  | nil => exact ⟨(List.append_nil _).symm, rfl⟩
  | cons r rest ih =>
    obtain ⟨hanswers, hclient⟩ := ih (t.start r)
    have hstate : (t.start r).client = (t.client.act (.resolve r)).state :=
      (t.client.resolve_state r).symm
    have hanswer : (t.start r).answers.map ClientAnswer.resolved =
        t.answers.map .resolved ++ [(t.client.act (.resolve r)).answer] := by
      simp [Together.start, Together.answers, act, resolve_answer]
    rw [hstate] at hanswers hclient
    refine ⟨?_, hclient⟩
    rw [List.foldl_cons, hanswers, hanswer, List.append_assoc]
    rfl

/-- A flight has the service and the hosts of a client. -/
structure Abreast (c : Client τ) (f : Flight) : Prop where
  locator : f.client.locator = c.locator
  hosts : f.client.hosts = c.hosts

theorem Abreast.start {c : Client τ} {f : Flight} (h : c.Abreast f) (r : LookupRequest) :
    (c.resolve r).state.Abreast (f.start r) := by
  obtain ⟨hlocator, hhosts⟩ := c.resolve_kept r
  rw [f.start_eq r]
  exact ⟨h.locator.trans hlocator.symm, by rw [h.hosts, hhosts]⟩

/-- A lookup that is served answers as it does one after another, and so may those after it. -/
theorem Serves.start {c : Client τ} {f : Flight} {r : LookupRequest} {rest : List FlightEvent}
    (hserved : c.Serves f.requests.length (.start r :: rest)) (h : c.Abreast f) :
    ((f.launch r).follow rest).answer? = some (c.resolve r).answer ∧
      (c.resolve r).state.Serves (f.start r).requests.length rest := by
  rw [f.start_eq r]
  cases hw : r.page.window with
  | error e =>
    rw [serves_start_of_error hw] at hserved
    rw [f.launch_of_error hw, Progress.follow_refused, resolve_of_error c r hw]
    refine ⟨rfl, ?_⟩
    simpa [Flight.requests, r.url?_of_error hw] using hserved
  | ok w =>
    obtain ⟨harrival, hrest⟩ := (serves_start_of_ok hw _ _).mp hserved
    refine ⟨?_, ?_⟩
    · rw [f.launch_answer?_of_arrival r harrival, LookupRequest.alone_of_ok hw,
        resolve_of_ok c r hw rfl, h.locator, h.hosts]
      rfl
    · rw [resolve_state]
      simpa [Flight.requests, r.url?_of_ok hw] using hrest

/-- **A flight that a transport serves in order answers as the same lookups one after another.** -/
theorem Serves.run_answers {c : Client τ} {f : Flight} {events : List FlightEvent}
    (hserved : c.Serves f.requests.length events) (h : c.Abreast f) :
    ((f.run events).lookups.map fun p => p.answer?.map ClientAnswer.resolved) =
      (f.lookups.map fun p => (p.follow events).answer?.map ClientAnswer.resolved) ++
        (c.run ((starts events).map .resolve)).answer.map some := by
  -- a start moves the client and the flight alike; other events move the lookups only
  induction events generalizing c f with
  | nil => simp [run]
  | cons event rest ih =>
    cases event with
    | start r =>
      obtain ⟨hanswer, hrest⟩ := hserved.start h
      rw [Flight.run_cons, Flight.step_start, ih hrest (h.start r), f.start_eq r]
      simp [run, act, hanswer]
    | reply ticket outcome =>
      have hrest := ih (f := f.step (.reply ticket outcome)) hserved ⟨h.locator, h.hosts⟩
      rw [Flight.run_cons, hrest, Flight.step_lookups]
      simp [FlightEvent.request?]
    | pass time =>
      have hrest := ih (f := f.step (.pass time)) hserved ⟨h.locator, h.hosts⟩
      rw [Flight.run_cons, hrest, Flight.step_lookups]
      simp [FlightEvent.request?]

/-- A flight makes the same requests as the same lookups one after another. -/
theorem Abreast.run_requests {c : Client (Recorder τ)} {f : Flight} (h : c.Abreast f)
    (events : List FlightEvent) :
    ∃ urls, (f.run events).requests = f.requests ++ urls ∧
      (c.run ((starts events).map .resolve)).state.transport.requests =
        c.transport.requests ++ urls := by
  induction events generalizing c f with
  | nil => exact ⟨[], (List.append_nil _).symm, (List.append_nil _).symm⟩
  | cons event rest ih =>
    cases event with
    | start r =>
      obtain ⟨urls, hflight, hrun⟩ := ih (h.start r)
      refine ⟨(r.url? c.locator c.hosts.current).toList ++ urls, ?_, ?_⟩
      · rw [Flight.run_cons, Flight.step_start, hflight, f.start_eq r, h.locator, h.hosts,
          ← List.append_assoc]
        rfl
      · rw [← List.append_assoc, ← resolve_requests]
        exact hrun
    | reply ticket outcome => exact ih ⟨h.locator, h.hosts⟩
    | pass time => exact ih ⟨h.locator, h.hosts⟩

end Client

/-! ### Serving lookups that have all been started -/

namespace FlightEvent

/-- Puts an event among others, after some time has passed. -/
def insertAt (time : Nat) (event : FlightEvent) : List FlightEvent → List FlightEvent
  | [] => [pass time, event]
  | pass t :: rest =>
    if time ≤ t then pass time :: event :: pass (t - time) :: rest
    else pass t :: insertAt (time - t) event rest
  | other :: rest => other :: insertAt time event rest

theorem starts_insertAt {event : FlightEvent} (hquiet : event.request? = none) (time : Nat)
    (events : List FlightEvent) : starts (insertAt time event events) = starts events := by
  induction events generalizing time with
  | nil => simp [insertAt, starts_cons_of_quiet hquiet]
  | cons other rest ih =>
    cases other with
    | start r => simp [insertAt, ih]
    | reply ticket outcome => simp [insertAt, ih]
    | pass t =>
      rw [insertAt]
      split
      · simp [starts_cons_of_quiet hquiet]
      · simp [ih]

/-- A reply to one request does not change when the reply to another comes. -/
theorem arrival_insertAt_of_ne {own ticket : Nat} (hne : ticket ≠ own) (time : Nat)
    (outcome : Except Failure Http.Reply) (waited : Nat) (events : List FlightEvent) :
    arrival own waited (insertAt time (reply ticket outcome) events) =
      arrival own waited events := by
  induction events generalizing time waited with
  | nil => simp [insertAt, arrival, hne]
  | cons other rest ih =>
    cases other with
    | start r => simp [insertAt, arrival, ih]
    | reply ticket' outcome' => simp [insertAt, arrival, ih]
    | pass t =>
      rw [insertAt]
      split
      · have htime : waited + time + (t - time) = waited + t := by omega
        simp [arrival, hne, htime]
      · simp [arrival, ih]

/-- The only reply to a request comes when it is put. -/
theorem arrival_insertAt_self {own waited : Nat} {events : List FlightEvent}
    (hnone : arrival own waited events = none) (time : Nat)
    (outcome : Except Failure Http.Reply) :
    arrival own waited (insertAt time (reply own outcome) events) =
      some { outcome, delay := waited + time } := by
  induction events generalizing time waited with
  | nil => simp [insertAt, arrival]
  | cons other rest ih =>
    cases other with
    | start r => exact ih hnone time
    | reply ticket outcome' =>
      rw [arrival] at hnone
      split at hnone
      · cases hnone
      · rename_i hne
        simp [insertAt, arrival, hne, ih hnone]
    | pass t =>
      rw [insertAt]
      split
      · simp [arrival]
      · have htime : waited + t + (time - t) = waited + time := by omega
        rw [arrival] at hnone
        simp [arrival, ih hnone, htime]

/-- Starts bring no replies. -/
theorem arrival_starts (own waited : Nat) (requests : List LookupRequest)
    (events : List FlightEvent) :
    arrival own waited (requests.map start ++ events) = arrival own waited events := by
  induction requests with
  | nil => rfl
  | cons r rest ih => exact ih

end FlightEvent

namespace Client

open FlightEvent (insertAt)

variable {τ : Type} [Transport τ]

theorem serves_of_quiet (c : Client τ) (ticket : Nat) {events : List FlightEvent}
    (hquiet : starts events = []) : c.Serves ticket events := by
  induction events with
  | nil => trivial
  | cons event rest ih =>
    cases event with
    | start r => cases hquiet
    | reply ticket' outcome => exact ih hquiet
    | pass time => exact ih hquiet

/-- One more reply to an earlier request does not matter to the requests to come. -/
theorem Serves.insertAt {c : Client τ} {ticket own : Nat} {requests : List LookupRequest}
    {later : List FlightEvent} (h : c.Serves ticket (requests.map .start ++ later))
    (hown : own < ticket) (hquiet : starts later = []) (time : Nat)
    (outcome : Except Failure Http.Reply) :
    c.Serves ticket (requests.map .start ++ insertAt time (.reply own outcome) later) := by
  induction requests generalizing c ticket with
  | nil =>
    have hstill : starts (FlightEvent.insertAt time (.reply own outcome) later) = [] :=
      (FlightEvent.starts_insertAt rfl time later).trans hquiet
    exact serves_of_quiet c ticket hstill
  | cons r rest ih =>
    rw [List.map_cons, List.cons_append] at h ⊢
    cases hw : r.page.window with
    | error e =>
      rw [serves_start_of_error hw] at h ⊢
      exact ih h hown
    | ok w =>
      rw [serves_start_of_ok hw] at h ⊢
      obtain ⟨harrival, hrest⟩ := h
      refine ⟨?_, ih hrest (Nat.lt_succ_of_lt hown)⟩
      rw [FlightEvent.arrival_starts] at harrival ⊢
      rw [FlightEvent.arrival_insertAt_of_ne (Nat.ne_of_lt hown)]
      exact harrival

/-- Any lookups can be started before any of the replies comes, and the transport serves them. -/
theorem exists_serves (c : Client τ) (ticket : Nat) (requests : List LookupRequest) :
    ∃ later, starts later = [] ∧ (∀ own < ticket, arrival own 0 later = none) ∧
      c.Serves ticket (requests.map .start ++ later) := by
  induction requests generalizing c ticket with
  | nil => exact ⟨[], rfl, fun _ _ => rfl, trivial⟩
  | cons r rest ih =>
    cases hw : r.page.window with
    | error e =>
      obtain ⟨later, hquiet, hnone, hserves⟩ := ih c ticket
      refine ⟨later, hquiet, hnone, ?_⟩
      rw [List.map_cons, List.cons_append, serves_start_of_error hw]
      exact hserves
    | ok w =>
      -- the replies to the lookups after this one are there; its own reply is put among them
      obtain ⟨later, hquiet, hnone, hserves⟩ := ih (c.start r).state (ticket + 1)
      let p := c.pending r (r.urlAt c.locator c.hosts.current w)
      refine ⟨insertAt p.delay (.reply ticket p.outcome) later,
        (FlightEvent.starts_insertAt rfl _ later).trans hquiet, fun own hown => ?_, ?_⟩
      · rw [FlightEvent.arrival_insertAt_of_ne (Nat.ne_of_gt hown)]
        exact hnone own (Nat.lt_succ_of_lt hown)
      · rw [List.map_cons, List.cons_append, serves_start_of_ok hw]
        refine ⟨?_, hserves.insertAt (Nat.lt_succ_self ticket) hquiet _ _⟩
        show arrival ticket 0 _ = _
        rw [FlightEvent.arrival_starts,
          FlightEvent.arrival_insertAt_self (hnone ticket (Nat.lt_succ_self ticket)), Nat.zero_add]

end Client

end LedgerLookup
