import LedgerLookup.Client.Session
import LedgerLookup.Proofs.Client.Lookup
import Mathlib.Data.List.Basic

/-!
# The accounts of a run

What a run of a client reads, requests and logs, action by action.  The supplier of hosts that is
current at a moment is read once by an action that needs the host and never otherwise; every lookup
whose page can be sent makes one request and nothing else makes any; and the log of the run is made
of what each action is good for.  Nothing is repeated, remembered or left out, whatever the replies
are.
-/

namespace LedgerLookup

open Http (Transport Recorder)

/-! ### What an action is good for -/

namespace ClientAction

/-- Whether an action needs the host. -/
def readsHost : ClientAction → Bool
  | useHosts _ => false
  | endpoint => true
  | resolve request => request.readsHost

/-- The URL that an action requests under a host. -/
def url? (l : Locator) (host : String) : ClientAction → Option String
  | resolve request => request.url? l host
  | _ => none

/-- The supplier of hosts that an action leaves behind. -/
def hostsAfter (s : HostSupplier) : ClientAction → HostSupplier
  | useHosts hosts => hosts
  | action => s.readIf action.readsHost

end ClientAction

theorem ClientAction.hostsAfter_of_kept {action : ClientAction}
    (hkept : ∀ hosts, action ≠ .useHosts hosts) (s : HostSupplier) :
    action.hostsAfter s = s.readIf action.readsHost := by
  cases action with
  | useHosts hosts => exact absurd rfl (hkept hosts)
  | endpoint => rfl
  | resolve r => rfl

/-- What is logged about an answer: one line for a lookup that succeeds. -/
def ClientAnswer.linesFor : ClientAction → ClientAnswer → List LogLine
  | .resolve request, .resolved (.ok r) => [.resolved request.identifier r.label]
  | _, _ => []

namespace LogLine

/-- Whether a line says where a host was found to belong. -/
def isLocated : LogLine → Bool
  | located .. => true
  | _ => false

/-- Whether a line says what a lookup has found. -/
def isResolved : LogLine → Bool
  | resolved .. => true
  | _ => false

end LogLine

/-- A transport that logs nothing but its requests. -/
def Http.LogsRequests (τ : Type) [Transport τ] : Prop :=
  ∀ (t : τ) (url : String), ∀ line ∈ (Transport.get t url).1.log, ∃ u, line = .requested u

theorem Http.logsRequests_script : Http.LogsRequests Http.Script := by
  intro s url line hline
  cases hline

theorem Http.logsRequests_network : Http.LogsRequests Http.Network := by
  intro n url line hline
  exact ⟨url, List.mem_singleton.mp hline⟩

theorem Http.LogsRequests.recorder {τ : Type} [Transport τ] (h : Http.LogsRequests τ) :
    Http.LogsRequests (Recorder τ) :=
  fun r url line hline => h r.inside url line hline

/-! ### Moments -/

/-- An action of a run, with the client that it is done with and what it answers. -/
structure Moment (τ : Type) where
  client : Client τ
  action : ClientAction
  answer : ClientAnswer

namespace Moment

variable {τ : Type}

/-- The host that the supplier would name at a moment. -/
def host (m : Moment τ) : String := m.client.hosts.current

/-- The host that is read at a moment. -/
def reading? (m : Moment τ) : Option String :=
  if m.action.readsHost then some m.host else none

/-- The URL that is requested at a moment. -/
def url? (m : Moment τ) : Option String := m.action.url? m.client.locator m.host

/-- What the transport logs at a moment. -/
def transportLines [Transport τ] (m : Moment τ) : List LogLine :=
  match m.url? with
  | some url => (Transport.get m.client.transport url).1.log
  | none => []

/-- What is logged about the host at a moment. -/
def hostLines (m : Moment τ) : List LogLine :=
  m.client.locator.linesFor m.host m.action.readsHost

/-- What is logged about the answer at a moment. -/
def answerLines (m : Moment τ) : List LogLine := m.answer.linesFor m.action

end Moment

/-- The moments of a run. -/
def Client.moments {τ : Type} [Transport τ] (c : Client τ) : List ClientAction → List (Moment τ)
  | [] => []
  | action :: rest =>
    let step := c.act action
    ⟨c, action, step.answer⟩ :: moments step.state rest

section

variable {τ : Type}

theorem Moment.filter_hostLines (m : Moment τ) :
    m.hostLines.filter LogLine.isLocated = m.hostLines ∧
      m.hostLines.filter LogLine.isResolved = [] := by
  unfold hostLines Locator.linesFor
  cases m.action.readsHost <;> exact ⟨rfl, rfl⟩

theorem Moment.filter_answerLines (m : Moment τ) :
    m.answerLines.filter LogLine.isLocated = [] ∧
      m.answerLines.filter LogLine.isResolved = m.answerLines := by
  unfold answerLines ClientAnswer.linesFor
  split <;> exact ⟨rfl, rfl⟩

/-- What a transport logs is not taken for what the client logs. -/
theorem Moment.filter_transportLines [Transport τ] (hlogs : Http.LogsRequests τ) (m : Moment τ)
    {p : LogLine → Bool} (hp : ∀ url, p (.requested url) = false) :
    m.transportLines.filter p = [] := by
  unfold transportLines
  cases m.url? with
  | none => rfl
  | some url =>
    rw [List.filter_eq_nil_iff]
    intro line hline
    obtain ⟨u, rfl⟩ := hlogs m.client.transport url line hline
    simp [hp]

end

/-! ### One action -/

/-- What one action does to a client and its log. -/
structure Accounted {τ : Type} [Transport τ] (m : Moment (Recorder τ)) (log : List LogLine)
    (after : Client (Recorder τ)) : Prop where
  locator : after.locator = m.client.locator
  hosts : after.hosts = m.action.hostsAfter m.client.hosts
  requests : after.transport.requests = m.client.transport.requests ++ m.url?.toList
  log : log = m.hostLines ++ m.transportLines ++ m.answerLines
  endpoint : m.action = .endpoint → m.answer = .endpoint (m.client.locator.locate m.host)

section

variable {τ : Type} [Transport τ] (c : Client (Recorder τ))

/-- Every action does what it is good for and nothing else. -/
theorem Client.act_accounted (action : ClientAction) :
    Accounted ⟨c, action, (c.act action).answer⟩ (c.act action).log (c.act action).state := by
  cases action with
  | useHosts hosts =>
    exact ⟨rfl, rfl, (List.append_nil _).symm, rfl, fun h => by cases h⟩
  | endpoint =>
    exact ⟨rfl, rfl, (List.append_nil _).symm, rfl, fun _ => rfl⟩
  | resolve r =>
    obtain ⟨hlocator, hhosts⟩ := c.resolve_kept r
    refine ⟨hlocator, hhosts, c.resolve_requests r, ?_, fun h => by cases h⟩
    simp only [act, Moment.hostLines, Moment.transportLines, Moment.answerLines, Moment.url?,
      Moment.host, ClientAction.url?, ClientAction.readsHost]
    cases hw : r.page.window with
    | error e =>
      simp [c.resolve_of_error r hw, r.url?_of_error hw, r.readsHost_of_error hw,
        Locator.linesFor, ClientAnswer.linesFor]
    | ok w =>
      rw [c.resolve_of_ok r hw rfl, r.url?_of_ok hw]
      unfold Pending.log
      cases (c.pending r (r.urlAt c.locator c.hosts.current w)).answer <;> rfl

end

/-! ### A run -/

namespace Client

section

variable {τ : Type} [Transport τ]

theorem run_append (c : Client τ) (before rest : List ClientAction) :
    c.run (before ++ rest) =
      ⟨(c.run before).answer ++ ((c.run before).state.run rest).answer,
        (c.run before).log ++ ((c.run before).state.run rest).log,
        ((c.run before).state.run rest).state⟩ := by
  induction before generalizing c with
  | nil => rfl
  | cons action before ih => simp [run, ih]

theorem moments_append (c : Client τ) (before rest : List ClientAction) :
    c.moments (before ++ rest) = c.moments before ++ (c.run before).state.moments rest := by
  induction before generalizing c with
  | nil => rfl
  | cons action before ih => simp [run, moments, ih]

theorem moments_action (c : Client τ) (actions : List ClientAction) :
    (c.moments actions).map Moment.action = actions := by
  induction actions generalizing c with
  | nil => rfl
  | cons action rest ih => simp [moments, ih]

theorem moments_answer (c : Client τ) (actions : List ClientAction) :
    (c.moments actions).map Moment.answer = (c.run actions).answer := by
  induction actions generalizing c with
  | nil => rfl
  | cons action rest ih => simp [run, moments, ih]

end

section

variable {τ : Type} [Transport τ] (c : Client (Recorder τ))

/-- A client stays at its service. -/
theorem moments_locator (actions : List ClientAction) :
    ∀ m ∈ c.moments actions, m.client.locator = c.locator := by
  induction actions generalizing c with
  | nil => intro m hm; cases hm
  | cons action rest ih =>
    intro m hm
    rcases List.mem_cons.mp hm with rfl | hm
    · rfl
    · exact (ih _ m hm).trans (c.act_accounted action).locator

theorem moments_endpoint (actions : List ClientAction) :
    ∀ m ∈ c.moments actions, m.action = .endpoint →
      m.answer = .endpoint (m.client.locator.locate m.host) := by
  induction actions generalizing c with
  | nil => intro m hm; cases hm
  | cons action rest ih =>
    intro m hm
    rcases List.mem_cons.mp hm with rfl | hm
    · exact (c.act_accounted action).endpoint
    · exact ih _ m hm

theorem run_requests (actions : List ClientAction) :
    (c.run actions).state.transport.requests =
      c.transport.requests ++ (c.moments actions).filterMap Moment.url? := by
  induction actions generalizing c with
  | nil => exact (List.append_nil _).symm
  | cons action rest ih =>
    have hfirst := (c.act_accounted action).requests
    rw [run, moments, ih, hfirst, List.append_assoc, List.filterMap_cons]
    cases hurl : Moment.url? ⟨c, action, (c.act action).answer⟩ <;> simp

theorem run_log (actions : List ClientAction) :
    (c.run actions).log =
      (c.moments actions).flatMap fun m => m.hostLines ++ m.transportLines ++ m.answerLines := by
  induction actions generalizing c with
  | nil => rfl
  | cons action rest ih =>
    rw [run, moments, List.flatMap_cons, ih, (c.act_accounted action).log]

theorem act_hosts_of_kept {action : ClientAction} (hkept : ∀ hosts, action ≠ .useHosts hosts) :
    (c.act action).state.hosts = c.hosts.readIf action.readsHost := by
  rw [(c.act_accounted action).hosts]
  exact ClientAction.hostsAfter_of_kept hkept c.hosts

/-- A supplier that is not replaced is read as often as there are actions that need the host. -/
theorem run_hosts {actions : List ClientAction} (hkept : ∀ hosts, .useHosts hosts ∉ actions) :
    (c.run actions).state.hosts =
      ⟨c.hosts.host, c.hosts.readings + actions.countP ClientAction.readsHost⟩ := by
  induction actions generalizing c with
  | nil => rfl
  | cons action rest ih =>
    have hafter := act_hosts_of_kept c fun hosts heq => hkept hosts (heq ▸ List.mem_cons_self)
    rw [run, ih _ fun hosts hmem => hkept hosts (List.mem_cons_of_mem _ hmem), hafter,
      List.countP_cons]
    exact c.hosts.readIf_then action.readsHost _

/-- The hosts that are read are those that the supplier names, one after another. -/
theorem moments_reading {actions : List ClientAction}
    (hkept : ∀ hosts, .useHosts hosts ∉ actions) :
    (c.moments actions).filterMap Moment.reading? =
      (List.range (actions.countP ClientAction.readsHost)).map fun n =>
        c.hosts.host (c.hosts.readings + n) := by
  induction actions generalizing c with
  | nil => rfl
  | cons action rest ih =>
    have hafter := act_hosts_of_kept c fun hosts heq => hkept hosts (heq ▸ List.mem_cons_self)
    have hrest := ih (c.act action).state fun hosts hmem =>
      hkept hosts (List.mem_cons_of_mem _ hmem)
    rw [moments, List.filterMap_cons, hrest, hafter, List.countP_cons]
    -- a reading shifts the numbers of those after it by one
    cases hreads : action.readsHost with
    | false => simp [Moment.reading?, hreads]
    | true =>
      simp only [Moment.reading?, hreads, if_true, List.range_succ_eq_map, List.map_cons,
        List.map_map]
      refine congrArg₂ List.cons rfl (List.map_congr_left fun n _ => ?_)
      simp [HostSupplier.readIf, Nat.add_comm, Nat.add_left_comm]

/-- The client's own lines about hosts, among those of a transport that logs only requests. -/
theorem run_log_located (hlogs : Http.LogsRequests τ) (actions : List ClientAction) :
    (c.run actions).log.filter LogLine.isLocated =
      (c.moments actions).flatMap Moment.hostLines := by
  rw [run_log, List.filter_flatMap]
  refine congrArg (List.flatMap · _) (funext fun m => ?_)
  simp [m.filter_hostLines, m.filter_answerLines,
    m.filter_transportLines hlogs.recorder (p := LogLine.isLocated) fun _ => rfl]

/-- The client's own lines about answers, likewise. -/
theorem run_log_resolved (hlogs : Http.LogsRequests τ) (actions : List ClientAction) :
    (c.run actions).log.filter LogLine.isResolved =
      (c.moments actions).flatMap Moment.answerLines := by
  rw [run_log, List.filter_flatMap]
  refine congrArg (List.flatMap · _) (funext fun m => ?_)
  simp [m.filter_hostLines, m.filter_answerLines,
    m.filter_transportLines hlogs.recorder (p := LogLine.isResolved) fun _ => rfl]

/-- The accounts of a run: its moments, and what it reads, requests and logs at them. -/
structure Accounts (c : Client (Recorder τ)) (actions : List ClientAction) : Prop where
  /-- The moments are those of the run, in order. -/
  moments : (c.moments actions).map Moment.action = actions ∧
    (c.moments actions).map Moment.answer = (c.run actions).answer
  /-- Each moment has the client that the actions before it leave behind. -/
  client_at : ∀ before rest, actions = before ++ rest →
    c.moments actions = c.moments before ++ (c.run before).state.moments rest
  /-- A supplier that is put in place is current from then on, and has not been read for it. -/
  hosts_replaced : ∀ before hosts, actions = before ++ [.useHosts hosts] →
    (c.run actions).state.hosts = hosts
  /-- As long as no other takes its place, the current supplier is read once by each action that
  needs the host and by no other, and the readings name its hosts one after another. -/
  hosts_read : ∀ before rest, actions = before ++ rest → (∀ hosts, .useHosts hosts ∉ rest) →
    let current := (c.run before).state.hosts
    ((c.run before).state.moments rest).filterMap Moment.reading? =
        (List.range (rest.countP ClientAction.readsHost)).map
          (fun n => current.host (current.readings + n)) ∧
      (c.run actions).state.hosts =
        ⟨current.host, current.readings + rest.countP ClientAction.readsHost⟩
  /-- An endpoint that is asked for is that of the host which is read for it. -/
  endpoints : ∀ m ∈ c.moments actions, m.action = .endpoint →
    m.answer = .endpoint (c.locator.locate m.host)
  /-- There is one request for each lookup whose page can be sent, at the endpoint that it names or
  else at that of the host which is read for it, and there is no other request. -/
  requests : (c.run actions).state.transport.requests =
    c.transport.requests ++
      (c.moments actions).filterMap fun m => m.action.url? c.locator m.host
  /-- The log is made of a line for each reading, what the transport logs, and a line for each
  lookup that succeeds. -/
  log : (c.run actions).log =
    (c.moments actions).flatMap fun m => m.hostLines ++ m.transportLines ++ m.answerLines
  /-- Over a transport that logs only its requests, no other line of these two kinds is logged. -/
  lines : Http.LogsRequests τ →
    (c.run actions).log.filter LogLine.isLocated = (c.moments actions).flatMap Moment.hostLines ∧
    (c.run actions).log.filter LogLine.isResolved = (c.moments actions).flatMap Moment.answerLines

/-- **Every run keeps its accounts**, whatever is done with the client and whatever the transport
answers. -/
theorem run_accounts (c : Client (Recorder τ)) (actions : List ClientAction) :
    Accounts c actions where
  moments := ⟨c.moments_action actions, c.moments_answer actions⟩
  client_at := by
    rintro before rest rfl
    exact c.moments_append before rest
  hosts_replaced := by
    rintro before hosts rfl
    rw [run_append]
    rfl
  hosts_read := by
    rintro before rest rfl hkept
    refine ⟨moments_reading _ hkept, ?_⟩
    rw [run_append]
    exact run_hosts _ hkept
  endpoints := by
    intro m hm haction
    rw [c.moments_endpoint actions m hm haction, c.moments_locator actions m hm]
  requests := by
    rw [c.run_requests actions]
    refine congrArg _ (List.filterMap_congr fun m hm => ?_)
    rw [Moment.url?, c.moments_locator actions m hm]
  log := c.run_log actions
  lines := fun hlogs => ⟨c.run_log_located hlogs actions, c.run_log_resolved hlogs actions⟩

end

end Client

end LedgerLookup
