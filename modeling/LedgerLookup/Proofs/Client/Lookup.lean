import LedgerLookup.Client.Lookup
import LedgerLookup.Http.Recorder
import LedgerLookup.Proofs.Http.Network
import LedgerLookup.Proofs.Resource.Envelope

/-!
# What a lookup does

Every lookup in closed form.  One whose page cannot be sent changes nothing.  Every other reads the
host once, unless it names its endpoint, makes one request, and answers by the reply alone: by its
failure, by its status, by its body, or because it came too late.
-/

namespace LedgerLookup

open Http (Recorder Reply Transport)
open Json (Value Members)

/-! ### Hosts -/

/-- The supplier after it has been read, or as it was. -/
def HostSupplier.readIf (s : HostSupplier) (reads : Bool) : HostSupplier :=
  ⟨s.host, s.readings + reads.toNat⟩

@[simp] theorem HostSupplier.readIf_true (s : HostSupplier) : s.readIf true = s.advance := rfl

@[simp] theorem HostSupplier.readIf_false (s : HostSupplier) : s.readIf false = s := rfl

/-- The readings made at first and later add up. -/
theorem HostSupplier.readIf_then (s : HostSupplier) (reads : Bool) (later : Nat) :
    (⟨(s.readIf reads).host, (s.readIf reads).readings + later⟩ : HostSupplier) =
      ⟨s.host, s.readings + (later + if reads then 1 else 0)⟩ := by
  cases reads with
  | false => rfl
  | true =>
    have hadd : s.readings + 1 + later = s.readings + (later + 1) := by omega
    exact congrArg (HostSupplier.mk s.host) hadd

/-- What is logged about a host when it is read. -/
def Locator.linesFor (l : Locator) (host : String) (reads : Bool) : List LogLine :=
  if reads then [.located host (.ofHost host) (l.locate host)] else []

/-! ### Requests -/

namespace LookupRequest

/-- Whether a lookup asks for a page that can be sent and leaves the endpoint to the host. -/
def readsHost (r : LookupRequest) : Bool :=
  r.page.window.isOk && r.mode.endpoint?.isNone

/-- The endpoint of a lookup that runs under a host. -/
def endpointAt (r : LookupRequest) (l : Locator) (host : String) : Endpoint :=
  r.mode.endpoint?.getD (l.locate host)

/-- The URL of a lookup that runs under a host, for a window. -/
def urlAt (r : LookupRequest) (l : Locator) (host : String) (w : Window) : String :=
  hashUrl (r.endpointAt l host) r.identifier w

/-- The URL that a lookup under a host requests, if its page can be sent. -/
def url? (r : LookupRequest) (l : Locator) (host : String) : Option String :=
  r.page.window.toOption.map (r.urlAt l host)

theorem readsHost_of_error {r : LookupRequest} {e : Page.Invalid} (h : r.page.window = .error e) :
    r.readsHost = false := by
  simp [readsHost, h, Except.isOk, Except.toBool]

theorem readsHost_of_ok {r : LookupRequest} {w : Window} (h : r.page.window = .ok w) :
    r.readsHost = r.mode.endpoint?.isNone := by
  simp [readsHost, h, Except.isOk, Except.toBool]

theorem url?_of_error {r : LookupRequest} {e : Page.Invalid} (h : r.page.window = .error e)
    (l : Locator) (host : String) : r.url? l host = none := by
  simp [url?, h, Except.toOption]

theorem url?_of_ok {r : LookupRequest} {w : Window} (h : r.page.window = .ok w) (l : Locator)
    (host : String) : r.url? l host = some (r.urlAt l host w) := by
  simp [url?, h, Except.toOption]

end LookupRequest

/-! ### Reading the reply -/

theorem Http.Reply.isSuccess_iff {r : Reply} :
    r.isSuccess = true ↔ 200 ≤ r.status ∧ r.status ≤ 299 :=
  Http.isSuccess_iff

namespace Sent

/-- A failure of the transport is the answer as it is. -/
theorem settle_error (s : Sent) (f : Failure) : s.settle (.error f) = .error f := rfl

/-- The body of a reply that is no success does not count. -/
theorem settle_of_not_success {s : Sent} {r : Reply} (h : r.isSuccess = false) :
    s.settle (.ok r) = .error (.fetch s.url (.status r.status) (some (.note r.preview))) := by
  simp [settle, Reply.decode, h]

theorem settle_of_object {s : Sent} {r : Reply} {ms : Members} (h : r.isSuccess = true)
    (hbody : Value.parse r.body = .ok (.object ms)) :
    s.settle (.ok r) = .ok ((Envelope.ofMembers ms).classify s.identifier) := by
  have htext : Envelope.codec.fromText r.body = .ok (.ofMembers ms) :=
    Envelope.fromText_eq_ok_iff.mpr ⟨ms, hbody, rfl⟩
  simp [settle, Reply.decode, h, htext, Except.mapError, pure, Except.pure]

theorem settle_of_not_object {s : Sent} {r : Reply} (h : r.isSuccess = true)
    (hbody : ∀ ms, Value.parse r.body ≠ .ok (.object ms)) :
    ∃ e, s.settle (.ok r) = .error (.fetch s.url .decode (some (.json e))) := by
  cases htext : Envelope.codec.fromText r.body with
  | ok envelope =>
    obtain ⟨ms, hms, -⟩ := Envelope.fromText_eq_ok_iff.mp htext
    exact absurd hms (hbody ms)
  | error e => exact ⟨e, by simp [settle, Reply.decode, h, htext, Except.mapError]⟩

/-- The only answer that names an unknown identifier comes from an object that holds nothing. -/
theorem settle_eq_notFound_iff {s : Sent} {outcome : Except Failure Reply} {x : String} :
    s.settle outcome = .ok (.notFound x) ↔
      x = s.identifier ∧ ∃ r ms, outcome = .ok r ∧ r.isSuccess = true ∧
        Value.parse r.body = .ok (.object ms) ∧
        ∀ k : ResourceKind, Members.get? k.key ms = none ∨ Members.get? k.key ms = some .null := by
  constructor
  · intro hx
    cases outcome with
    | error f => cases hx
    | ok r =>
      cases hr : r.isSuccess with
      | false => rw [settle_of_not_success hr] at hx; cases hx
      | true =>
        by_cases hbody : ∃ ms, Value.parse r.body = .ok (.object ms)
        · obtain ⟨ms, hms⟩ := hbody
          rw [settle_of_object hr hms, Except.ok.injEq, Envelope.classify_eq_notFound_iff] at hx
          obtain ⟨rfl, hnone⟩ := hx
          refine ⟨rfl, r, ms, rfl, hr, hms, fun k => Envelope.held?_eq_none_iff.mp ?_⟩
          simpa using hnone k
        · obtain ⟨e, he⟩ := settle_of_not_object (s := s) hr (not_exists.mp hbody)
          rw [he] at hx
          cases hx
  · rintro ⟨rfl, r, ms, rfl, hr, hms, hnull⟩
    rw [settle_of_object hr hms, Except.ok.injEq, Envelope.classify_eq_notFound_iff]
    refine ⟨rfl, fun k => ?_⟩
    rw [Envelope.payload?_ofMembers, Envelope.held?_eq_none_iff]
    exact hnull k

/-! ### Waiting for it -/

theorem answer_of_givesUp {s : Sent} {delay : Nat} (h : s.givesUp delay = true)
    (outcome : Except Failure Reply) : s.answer outcome delay = .error s.expiry := by
  simp [answer, h]

theorem answer_of_not_givesUp {s : Sent} {delay : Nat} (h : s.givesUp delay = false)
    (outcome : Except Failure Reply) : s.answer outcome delay = s.settle outcome := by
  simp [answer, h]

/-- A lookup that has given up does not come back. -/
theorem givesUp_mono {s : Sent} {t t' : Nat} (h : s.givesUp t = true) (ht : t ≤ t') :
    s.givesUp t' = true := by
  unfold givesUp at h ⊢
  cases hp : s.patience with
  | none => simp [hp] at h
  | some patience =>
    simp only [hp, decide_eq_true_eq] at h ⊢
    omega

/-- No lookup gives up at once. -/
theorem givesUp_zero (s : Sent) : s.givesUp 0 = false := by
  unfold givesUp
  cases s.patience <;> simp

end Sent

/-! ### A whole lookup -/

namespace Client

variable {τ : Type}

theorem endpointFor_eq (c : Client τ) (mode : LookupMode) :
    c.endpointFor mode =
      ⟨mode.endpoint?.getD (c.locator.locate c.hosts.current),
        c.locator.linesFor c.hosts.current mode.endpoint?.isNone,
        c.withHosts (c.hosts.readIf mode.endpoint?.isNone)⟩ := by
  unfold endpointFor
  cases mode.endpoint? <;> rfl

theorem requestUrl_of_error {c : Client τ} {r : LookupRequest} {e : Page.Invalid}
    (h : r.page.window = .error e) : c.requestUrl r = ⟨.error (.invalidPage e), [], c⟩ := by
  simp [requestUrl, h]

theorem requestUrl_of_ok {c : Client τ} {r : LookupRequest} {w : Window}
    (h : r.page.window = .ok w) :
    c.requestUrl r =
      ⟨.ok (r.urlAt c.locator c.hosts.current w),
        c.locator.linesFor c.hosts.current r.readsHost,
        c.withHosts (c.hosts.readIf r.readsHost)⟩ := by
  rw [r.readsHost_of_ok h]
  simp [requestUrl, h, endpointFor_eq, LookupRequest.urlAt, LookupRequest.endpointAt]

variable [Transport τ]

/-- The lookup whose request for a URL the client's transport has answered. -/
def pending (c : Client τ) (r : LookupRequest) (url : String) : Pending :=
  ⟨r.sent url, (Transport.get c.transport url).1.outcome, (Transport.get c.transport url).1.delay⟩

theorem start_of_error {c : Client τ} {r : LookupRequest} {e : Page.Invalid}
    (h : r.page.window = .error e) : c.start r = ⟨.error (.invalidPage e), [], c⟩ := by
  simp [start, requestUrl_of_error h]

theorem start_of_ok {c : Client τ} {r : LookupRequest} {w : Window} (h : r.page.window = .ok w) :
    let url := r.urlAt c.locator c.hosts.current w
    c.start r =
      ⟨.ok (c.pending r url),
        c.locator.linesFor c.hosts.current r.readsHost ++ (Transport.get c.transport url).1.log,
        ⟨c.locator, c.hosts.readIf r.readsHost, (Transport.get c.transport url).2⟩⟩ := by
  simp [start, requestUrl_of_ok h, send, withHosts, pending]

/-- A lookup answers by what has been started. -/
theorem resolve_answer (c : Client τ) (r : LookupRequest) :
    (c.resolve r).answer = (c.start r).answer.bind Pending.answer := by
  cases h : (c.start r).answer <;> simp [resolve, h, Except.bind]

/-- Nothing changes in the client after the start of a lookup. -/
theorem resolve_state (c : Client τ) (r : LookupRequest) :
    (c.resolve r).state = (c.start r).state := by
  cases h : (c.start r).answer <;> simp [resolve, h]

/-- A lookup whose page cannot be sent does nothing but fail. -/
theorem resolve_of_error (c : Client τ) (r : LookupRequest) {e : Page.Invalid}
    (h : r.page.window = .error e) : c.resolve r = ⟨.error (.invalidPage e), [], c⟩ := by
  simp [resolve, start_of_error h]

/-- Every other lookup makes one request. -/
theorem resolve_of_ok (c : Client τ) (r : LookupRequest) {w : Window}
    (h : r.page.window = .ok w) {url : String} (hurl : url = r.urlAt c.locator c.hosts.current w) :
    c.resolve r =
      ⟨(c.pending r url).answer,
        c.locator.linesFor c.hosts.current r.readsHost ++ (Transport.get c.transport url).1.log ++
          (c.pending r url).log,
        ⟨c.locator, c.hosts.readIf r.readsHost, (Transport.get c.transport url).2⟩⟩ := by
  subst hurl
  simp [resolve, start_of_ok h]

/-- A lookup leaves the client at its service, with the host read if it was needed. -/
theorem resolve_kept (c : Client τ) (r : LookupRequest) :
    (c.resolve r).state.locator = c.locator ∧
      (c.resolve r).state.hosts = c.hosts.readIf r.readsHost := by
  cases hw : r.page.window with
  | error e => simp [resolve_of_error c r hw, r.readsHost_of_error hw]
  | ok w => simp [resolve_of_ok c r hw rfl]

/-- A lookup requests its URL, if it has one, and nothing else. -/
theorem resolve_requests (c : Client (Recorder τ)) (r : LookupRequest) :
    (c.resolve r).state.transport.requests =
      c.transport.requests ++ (r.url? c.locator c.hosts.current).toList := by
  cases hw : r.page.window with
  | error e => simp [resolve_of_error c r hw, r.url?_of_error hw]
  | ok w => simp [resolve_of_ok c r hw rfl, r.url?_of_ok hw]

/-- A lookup without a time limit answers by its reply, however late that comes. -/
theorem answer_of_unbounded (c : Client τ) (identifier : String) {page : Page}
    (endpoint : Option Endpoint) {w : Window} (h : page.window = .ok w) {url : String}
    (hurl : url = hashUrl (endpoint.getD (c.locator.locate c.hosts.current)) identifier w) :
    (c.resolve ⟨identifier, page, .unbounded endpoint⟩).answer =
      Sent.settle ⟨identifier, url, none⟩ (Transport.get c.transport url).1.outcome := by
  rw [resolve_of_ok c ⟨identifier, page, .unbounded endpoint⟩ h hurl]
  rfl

end Client

end LedgerLookup
