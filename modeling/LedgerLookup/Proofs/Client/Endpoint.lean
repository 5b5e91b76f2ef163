import LedgerLookup.Client.Session
import LedgerLookup.Proofs.Client.Lookup
import LedgerLookup.Proofs.Endpoint
import LedgerLookup.Proofs.Page

/-!
# Endpoints that are found and endpoints that are named

A lookup that leaves its endpoint to the host against the same lookup at the endpoint of that host's
deployment, named by the caller.  They make the same request and get the same answer; all that the
first does besides is to read the host and to log it.  What is found does not depend on slashes at
the end of the configured base.
-/

namespace LedgerLookup.Client

open Http (Recorder Transport)
open Text (SameButSlashes slashes)

/-- What a locator finds for the host of the moment may as well be named. -/
theorem resolve_named_eq {τ : Type} [Transport τ] (c : Client τ) (identifier : String)
    (page : Page) :
    let located := c.resolve ⟨identifier, page, .unbounded none⟩
    let named := c.resolve ⟨identifier, page, .unbounded (some (c.locator.locate c.hosts.current))⟩
    named.answer = located.answer ∧ named.state.transport = located.state.transport ∧
      located.log = c.locator.linesFor c.hosts.current page.window.isOk ++ named.log := by
  intro located named
  cases hw : page.window with
  | error e =>
    have hlocated : located = ⟨.error (.invalidPage e), [], c⟩ := resolve_of_error c _ hw
    have hnamed : named = ⟨.error (.invalidPage e), [], c⟩ := resolve_of_error c _ hw
    rw [hlocated, hnamed]
    exact ⟨rfl, rfl, rfl⟩
  | ok w =>
    let url := hashUrl (c.locator.locate c.hosts.current) identifier w
    let pending := c.pending ⟨identifier, page, .unbounded none⟩ url
    let lines := (Transport.get c.transport url).1.log ++ pending.log
    have hreads : LookupRequest.readsHost ⟨identifier, page, .unbounded none⟩ = true :=
      LookupRequest.readsHost_of_ok hw
    have hkeeps : LookupRequest.readsHost
        ⟨identifier, page, .unbounded (some (c.locator.locate c.hosts.current))⟩ = false :=
      LookupRequest.readsHost_of_ok hw
    have hlocated : located = ⟨pending.answer, c.locator.linesFor c.hosts.current true ++ lines,
        ⟨c.locator, c.hosts.readIf true, (Transport.get c.transport url).2⟩⟩ := by
      show c.resolve _ = _
      rw [resolve_of_ok c _ hw rfl, hreads, List.append_assoc]
      rfl
    have hnamed : named = ⟨pending.answer, lines,
        ⟨c.locator, c.hosts.readIf false, (Transport.get c.transport url).2⟩⟩ := by
      show c.resolve _ = _
      rw [resolve_of_ok c _ hw rfl, hkeeps]
      rfl
    rw [hlocated, hnamed]
    exact ⟨rfl, rfl, rfl⟩

/-- Configurations whose bases differ in slashes at their ends only are the same to a client. -/
theorem ofConfig_congr {τ : Type} {config other : Config} (hports : other.ports = config.ports)
    (hbase : SameButSlashes config.baseUrl other.baseUrl) (hosts : HostSupplier) (transport : τ) :
    ofConfig other hosts transport = ofConfig config hosts transport := by
  unfold ofConfig Locator.ofBase
  rw [hports, Text.sameButSlashes_iff.mp hbase]

variable {τ : Type} [Transport τ]

/-- **Finding the endpoint comes to the same as naming it.**  For every configuration and host, a
lookup without an endpoint of its own and the lookup at the endpoint made of the configured base and
the port of the host's deployment give the same answer and leave the same transport, with the same
requests; the first also reads the host, if its page can be sent, and logs where it belongs.  The
URL is the base without its slashes, the port, and one slash before the path.  So configurations
with the same ports lead to the same URL exactly when their bases differ in slashes at their ends
only, and then everything that is done with their clients, under whatever hosts, is the same. -/
theorem resolve_located_as_named (config : Config) (hosts : HostSupplier)
    (transport : Recorder τ) (identifier : String) (page : Option Page) :
    let c := ofConfig config hosts transport
    let given := page.getD {}
    let port := config.ports.get (.ofHost hosts.current)
    let located := c.resolve ⟨identifier, given, .unbounded none⟩
    let named := c.resolve ⟨identifier, given, .unbounded (some (.ofBase config.baseUrl port))⟩
    named.answer = located.answer ∧ named.state.transport = located.state.transport ∧
    located.log = c.locator.linesFor hosts.current given.window.isOk ++ named.log ∧
    (∀ w, given.window = .ok w → ∃ front n,
      config.baseUrl = front ++ slashes n ∧ (∀ s, front ≠ s ++ "/") ∧
      located.state.transport.requests = transport.requests ++
        [front ++ ":" ++ Text.decimal port.toNat ++ "/" ++ "explorer/hash/" ++
          Text.Percent.encoded identifier ++ "?" ++ w.query]) ∧
    (∀ other : Config, other.ports = config.ports →
      (given.Sendable →
        (((ofConfig other hosts transport).resolve
            ⟨identifier, given, .unbounded none⟩).state.transport.requests =
          located.state.transport.requests ↔ SameButSlashes config.baseUrl other.baseUrl)) ∧
      (SameButSlashes config.baseUrl other.baseUrl → ∀ hosts' actions,
        (ofConfig other hosts' transport).run actions =
          (ofConfig config hosts' transport).run actions)) := by
  intro c given port located named
  have hfound : c.locator.locate c.hosts.current = .ofBase config.baseUrl port :=
    Locator.locate_ofBase config.baseUrl config.ports hosts.current
  have hrequests : ∀ (config : Config) w, given.window = .ok w →
      ((ofConfig config hosts transport).resolve
          ⟨identifier, given, .unbounded none⟩).state.transport.requests =
        transport.requests ++ [hashUrl
          (.ofBase config.baseUrl (config.ports.get (.ofHost hosts.current))) identifier w] := by
    intro config w hw
    rw [resolve_requests, LookupRequest.url?_of_ok hw, ← Locator.locate_ofBase]
    rfl
  obtain ⟨hanswer, htransport, hlog⟩ := c.resolve_named_eq identifier given
  rw [hfound] at hanswer htransport hlog
  refine ⟨hanswer, htransport, hlog, fun w hw => ?_, fun other hports => ⟨fun hsendable => ?_,
    fun hbase hosts' actions => ?_⟩⟩
  · obtain ⟨front, n, hbase, hend, hurl⟩ :=
      exists_hashUrl_ofBase_eq config.baseUrl port identifier w
    exact ⟨front, n, hbase, hend, hurl ▸ hrequests config w hw⟩
  · obtain ⟨w, hw, -⟩ := hsendable.exists_window
    rw [hrequests other w hw, hports, hrequests config w hw, List.append_cancel_left_eq,
      List.singleton_inj]
    exact eq_comm.trans (hashUrl_ofBase_eq_iff port identifier w)
  · rw [ofConfig_congr hports hbase]

end LedgerLookup.Client
