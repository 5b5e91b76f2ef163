import LedgerLookup.Client.Session
import LedgerLookup.Proofs.Client.Lookup

/-!
# Lookups with a time limit

A lookup with a time limit against the same lookup without one: they make the same request and
leave the same client behind, and they differ only in the answer and the log of a lookup whose
reply comes after the limit.
-/

namespace LedgerLookup.Client

open Http (Transport Recorder)

variable {τ : Type} [Transport τ]

/-- The limit does not change what becomes of the client. -/
theorem state_within_eq (c : Client τ) (identifier : String) (page : Page) (patience : Nat) :
    (c.resolve ⟨identifier, page, .within patience⟩).state =
      (c.resolve ⟨identifier, page, .unbounded none⟩).state := by
  cases hw : page.window with
  | error e =>
    rw [resolve_of_error c ⟨identifier, page, .within patience⟩ hw,
      resolve_of_error c ⟨identifier, page, .unbounded none⟩ hw]
  | ok w =>
    rw [resolve_of_ok c ⟨identifier, page, .within patience⟩ hw rfl,
      resolve_of_ok c ⟨identifier, page, .unbounded none⟩ hw rfl]
    rfl

/-- A reply that comes by the limit, or right at it, is read as if there were no limit. -/
theorem answer_within_eq (c : Client τ) (identifier : String) (page : Page) {patience : Nat}
    {url : String} (hdelay : (Transport.get c.transport url).1.delay ≤ patience) :
    (c.pending ⟨identifier, page, .within patience⟩ url).answer =
      (c.pending ⟨identifier, page, .unbounded none⟩ url).answer := by
  have hstay : (LookupRequest.sent ⟨identifier, page, .within patience⟩ url).givesUp
      (Transport.get c.transport url).1.delay = false := by
    simp [LookupRequest.sent, LookupMode.patience?, Sent.givesUp, hdelay]
  exact Sent.answer_of_not_givesUp hstay _

theorem resolve_within_eq (c : Client τ) (identifier : String) {page : Page} {patience : Nat}
    {w : Window} (hw : page.window = .ok w)
    (hdelay : (Transport.get c.transport
      (hashUrl (c.locator.locate c.hosts.current) identifier w)).1.delay ≤ patience) :
    c.resolve ⟨identifier, page, .within patience⟩ =
      c.resolve ⟨identifier, page, .unbounded none⟩ := by
  rw [resolve_of_ok c ⟨identifier, page, .within patience⟩ hw rfl,
    resolve_of_ok c ⟨identifier, page, .unbounded none⟩ hw rfl, Pending.log, Pending.log]
  simp only [LookupRequest.urlAt, LookupRequest.endpointAt, LookupMode.endpoint?,
    Option.getD_none, answer_within_eq c identifier page hdelay]
  rfl

/-- A reply that comes later is not waited for. -/
theorem answer_within_expired (c : Client τ) (identifier : String) (page : Page) {patience : Nat}
    {url : String} (hdelay : patience < (Transport.get c.transport url).1.delay) :
    (c.pending ⟨identifier, page, .within patience⟩ url).answer =
      .error (.fetch url .timeout (some (.note "deadline has elapsed"))) := by
  have hgive : (LookupRequest.sent ⟨identifier, page, .within patience⟩ url).givesUp
      (Transport.get c.transport url).1.delay = true := by
    simp [LookupRequest.sent, LookupMode.patience?, Sent.givesUp, hdelay]
  exact Sent.answer_of_givesUp hgive _

/-- The log of a lookup that is not waited for ends with what the transport logs. -/
theorem log_within_expired (c : Client τ) (identifier : String) {page : Page} {patience : Nat}
    {w : Window} (hw : page.window = .ok w) {url : String}
    (hurl : url = hashUrl (c.locator.locate c.hosts.current) identifier w)
    (hdelay : patience < (Transport.get c.transport url).1.delay) :
    (c.resolve ⟨identifier, page, .within patience⟩).log =
      c.locator.linesFor c.hosts.current true ++ (Transport.get c.transport url).1.log := by
  have hreads : LookupRequest.readsHost ⟨identifier, page, .within patience⟩ = true :=
    LookupRequest.readsHost_of_ok hw
  rw [resolve_of_ok c ⟨identifier, page, .within patience⟩ hw hurl, Pending.log,
    answer_within_expired c identifier page hdelay, hreads]
  exact List.append_nil _

/-- **A time limit only cuts the waiting short.**  A page that cannot be sent is refused alike, and
nothing is requested.  Every other lookup makes one request, the same with the limit as without.
If the reply, or the failure, comes by the limit, the two lookups are the same in answer, log and
client; if it comes later, the lookup fails with that URL and the expiry as its cause, and logs
nothing but the reading of the host and what the transport logs.  Whatever is done with the client
afterwards is the same in every case. -/
theorem resolve_within_patience (c : Client (Recorder τ)) (identifier : String)
    (page : Option Page) (patience : Nat) :
    let given := page.getD {}
    let timed := c.resolve ⟨identifier, given, .within patience⟩
    let untimed := c.resolve ⟨identifier, given, .unbounded none⟩
    (∀ e, given.window = .error e →
      timed = ⟨.error (.invalidPage e), [], c⟩ ∧ untimed = timed) ∧
    (∀ w, given.window = .ok w →
      let url := hashUrl (c.locator.locate c.hosts.current) identifier w
      let exchange := (Transport.get c.transport url).1
      timed.state.transport.requests = c.transport.requests ++ [url] ∧
      untimed.state.transport.requests = c.transport.requests ++ [url] ∧
      (exchange.delay ≤ patience →
        timed = untimed ∧ ∀ f, exchange.outcome = .error f → timed.answer = .error f) ∧
      (patience < exchange.delay →
        timed.answer = .error (.fetch url .timeout (some (.note "deadline has elapsed"))) ∧
        timed.log = c.locator.linesFor c.hosts.current true ++ exchange.log)) ∧
    (∀ later : List ClientAction, timed.state.run later = untimed.state.run later) := by
  intro given timed untimed
  have hstate : timed.state = untimed.state := state_within_eq c identifier given patience
  refine ⟨fun e he => ?_, fun w hw => ?_, fun later => by rw [hstate]⟩
  · have htimed : timed = ⟨.error (.invalidPage e), [], c⟩ := resolve_of_error c _ he
    exact ⟨htimed, (resolve_of_error c _ he).trans htimed.symm⟩
  · intro url exchange
    have hrequests : untimed.state.transport.requests = c.transport.requests ++ [url] := by
      show (c.resolve ⟨identifier, given, .unbounded none⟩).state.transport.requests = _
      rw [resolve_requests, LookupRequest.url?_of_ok hw]
      rfl
    refine ⟨by rw [hstate, hrequests], hrequests, fun hdelay => ?_, fun hdelay => ?_⟩
    · have heq : timed = untimed := resolve_within_eq c identifier hw hdelay
      refine ⟨heq, fun f hf => ?_⟩
      rw [heq, answer_of_unbounded c identifier none hw rfl]
      exact congrArg (Sent.settle ⟨identifier, url, none⟩) hf
    · refine ⟨?_, log_within_expired c identifier hw rfl hdelay⟩
      show (c.resolve ⟨identifier, given, .within patience⟩).answer = _
      rw [resolve_of_ok c _ hw rfl]
      exact answer_within_expired c identifier given hdelay

end LedgerLookup.Client
