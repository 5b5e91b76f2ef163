import LedgerLookup.Http.Recorder
import LedgerLookup.Market.Query
import LedgerLookup.Proofs.Client.Lookup
import Mathlib.Data.List.Basic

/-!
# The halves of a market query

A market query has a client of the explorer service on one side and an oracle on the other.  Every
action belongs to one of the halves: it leaves the other as it is, and what it answers depends on
its own half alone.  A run is therefore two runs that do not notice each other.
-/

namespace LedgerLookup

open Http (Transport Recorder)

/-! ### Actions -/

namespace MarketAction

/-- Whether an action asks the oracle. -/
def isQuote : MarketAction → Bool
  | quote _ => true
  | _ => false

/-- Whether an action is one of the explorer service. -/
def isExplorer (action : MarketAction) : Bool := !action.isQuote

/-- Whether an action needs the host. -/
def readsHost : MarketAction → Bool
  | useHosts _ => false
  | endpoint => true
  | swap => true
  | quote _ => false

/-- The supplier of hosts that an action leaves behind. -/
def hostsAfter (s : HostSupplier) : MarketAction → HostSupplier
  | useHosts hosts => hosts
  | action => s.readIf action.readsHost

end MarketAction

/-- An action of a run, with the market query that it is done with, what it answers and what it
logs. -/
structure MarketMoment (τ : Type) where
  market : Market τ
  action : MarketAction
  answer : MarketAnswer
  log : List LogLine

/-- The host that is read at a moment. -/
def MarketMoment.reading? {τ : Type} (m : MarketMoment τ) : Option String :=
  if m.action.readsHost then some m.market.hosts.current else none

namespace Market

variable {τ : Type} [Transport τ]

/-- The moments of a run. -/
def moments (m : Market τ) : List MarketAction → List (MarketMoment τ)
  | [] => []
  | action :: rest =>
    let step := m.act action
    ⟨m, action, step.answer, step.log⟩ :: moments step.state rest

theorem moments_action (m : Market τ) (actions : List MarketAction) :
    (m.moments actions).map MarketMoment.action = actions := by
  induction actions generalizing m with
  | nil => rfl
  | cons action rest ih => rw [moments, List.map_cons, ih]

theorem moments_answer (m : Market τ) (actions : List MarketAction) :
    (m.moments actions).map MarketMoment.answer = (m.run actions).answer := by
  induction actions generalizing m with
  | nil => rfl
  | cons action rest ih => rw [moments, run, List.map_cons, ih]

/-- The hosts that are read in a run, one after another. -/
def readings (m : Market τ) (actions : List MarketAction) : List String :=
  (m.moments actions).filterMap MarketMoment.reading?

/-- The answers in a run to the actions of some kind. -/
def answersTo (m : Market τ) (kind : MarketAction → Bool) (actions : List MarketAction) :
    List MarketAnswer :=
  ((m.moments actions).filter fun x => kind x.action).map MarketMoment.answer

/-! ### Halves -/

/-- A half of market queries: what belongs to it, and the actions that are its own.  The others
leave it as it is, and its own depend on nothing else. -/
structure Half (τ : Type) [Transport τ] (σ : Type) where
  of : Market τ → σ
  owns : MarketAction → Bool
  kept : ∀ m action, owns action = false → of (m.act action).state = of m
  congr : ∀ m m' action, owns action = true → of m = of m' →
    (m.act action).answer = (m'.act action).answer ∧ (m.act action).log = (m'.act action).log ∧
      of (m.act action).state = of (m'.act action).state

namespace Half

variable {σ : Type} (half : Half τ σ)

/-- What a half sees of a moment. -/
def sees (x : MarketMoment τ) : σ × MarketAction × MarketAnswer × List LogLine :=
  (half.of x.market, x.action, x.answer, x.log)

/-- What a half sees of a run at its own actions. -/
def trace (m : Market τ) (actions : List MarketAction) :
    List (σ × MarketAction × MarketAnswer × List LogLine) :=
  ((m.moments actions).filter fun x => half.owns x.action).map half.sees

/-- A half sees the same when nothing but its own actions is done. -/
theorem trace_alone {m m' : Market τ} (h : half.of m = half.of m') (actions : List MarketAction) :
    half.trace m actions = half.trace m' (actions.filter half.owns) ∧
      half.of (m.run actions).state = half.of (m'.run (actions.filter half.owns)).state := by
  induction actions generalizing m m' with
  | nil => exact ⟨rfl, h⟩
  | cons action rest ih =>
    cases howns : half.owns action with
    | false =>
      -- the action of the other half goes by
      have hkept : half.of (m.act action).state = half.of m' := (half.kept m action howns).trans h
      obtain ⟨htrace, hstate⟩ := ih hkept
      rw [List.filter_cons_of_neg (by simp [howns])]
      refine ⟨?_, hstate⟩
      rw [← htrace, trace, moments, List.filter_cons_of_neg (by simp [howns])]
      rfl
    | true =>
      obtain ⟨hanswer, hlog, hafter⟩ := half.congr m m' action howns h
      obtain ⟨htrace, hstate⟩ := ih hafter
      rw [List.filter_cons_of_pos howns]
      refine ⟨?_, hstate⟩
      have hsees : half.sees ⟨m, action, (m.act action).answer, (m.act action).log⟩ =
          half.sees ⟨m', action, (m'.act action).answer, (m'.act action).log⟩ := by
        simp only [sees, h, hanswer, hlog]
      rw [trace, moments, List.filter_cons_of_pos (by exact howns), List.map_cons, hsees, trace,
        moments, List.filter_cons_of_pos (by exact howns), List.map_cons]
      exact congrArg _ htrace

/-- Runs with the same actions of a half look the same to it, whatever the other half is and
whatever else is done. -/
theorem trace_congr {m m' : Market τ} (h : half.of m = half.of m')
    {actions actions' : List MarketAction}
    (hsame : actions.filter half.owns = actions'.filter half.owns) :
    half.trace m actions = half.trace m' actions' ∧
      half.of (m.run actions).state = half.of (m'.run actions').state := by
  obtain ⟨htrace, hstate⟩ := half.trace_alone h actions
  obtain ⟨htrace', hstate'⟩ := half.trace_alone (m := m') rfl actions'
  rw [hsame] at htrace hstate
  exact ⟨htrace.trans htrace'.symm, hstate.trans hstate'.symm⟩

theorem answersTo_owns (m : Market τ) (actions : List MarketAction) :
    m.answersTo half.owns actions = (half.trace m actions).map fun seen => seen.2.2.1 := by
  rw [trace, List.map_map]
  rfl

theorem answersTo_congr {m m' : Market τ} (h : half.of m = half.of m')
    {actions actions' : List MarketAction}
    (hsame : actions.filter half.owns = actions'.filter half.owns) :
    m.answersTo half.owns actions = m'.answersTo half.owns actions' := by
  rw [answersTo_owns, answersTo_owns, (half.trace_congr h hsame).1]

/-- When all actions are its own, a half sees the whole run. -/
theorem answersTo_filter_owns (m : Market τ) (actions : List MarketAction) :
    m.answersTo half.owns (actions.filter half.owns) =
      (m.run (actions.filter half.owns)).answer := by
  rw [answersTo, List.filter_eq_self.mpr, moments_answer]
  intro x hx
  have hmem : x.action ∈ (m.moments (actions.filter half.owns)).map MarketMoment.action :=
    List.mem_map_of_mem hx
  rw [moments_action] at hmem
  exact (List.mem_filter.mp hmem).2

end Half

/-! ### The explorer service and the oracle -/

/-- The actions of the explorer service leave the oracle as it is. -/
theorem act_oracle (m : Market τ) {action : MarketAction} (h : action.isQuote = false) :
    (m.act action).state.oracle = m.oracle := by
  cases action with
  | useHosts hosts => rfl
  | endpoint => rfl
  | swap =>
    simp only [act, swapSnapshot]
    split <;> rfl
  | quote currency => cases h

/-- A query for a price leaves the client as it is. -/
theorem act_client (m : Market τ) {action : MarketAction} (h : action.isQuote = true) :
    (m.act action).state.client = m.client := by
  cases action with
  | quote currency => rfl
  | _ => cases h

/-- The supplier of hosts is read once by an action that needs the host, and by no other. -/
theorem act_hosts (m : Market τ) (action : MarketAction) :
    (m.act action).state.hosts = action.hostsAfter m.hosts := by
  cases action with
  | useHosts hosts => rfl
  | endpoint => rfl
  | swap =>
    simp only [act, swapSnapshot]
    split <;> rfl
  | quote currency => rfl

/-- The actions of the explorer service depend on nothing but the client. -/
theorem act_congr_client {m m' : Market τ} (h : m.client = m'.client) {action : MarketAction}
    (haction : action.isQuote = false) :
    (m.act action).answer = (m'.act action).answer ∧ (m.act action).log = (m'.act action).log ∧
      (m.act action).state.client = (m'.act action).state.client := by
  cases action with
  | useHosts hosts => exact ⟨rfl, rfl, congrArg (Client.withHosts · hosts) h⟩
  | endpoint =>
    have hstep : m.client.endpoint = m'.client.endpoint := congrArg Client.endpoint h
    show MarketAnswer.endpoint m.client.endpoint.answer =
        MarketAnswer.endpoint m'.client.endpoint.answer ∧
      m.client.endpoint.log = m'.client.endpoint.log ∧
      m.client.endpoint.state = m'.client.endpoint.state
    rw [hstep]
    exact ⟨rfl, rfl, rfl⟩
  | swap =>
    simp only [act, swapSnapshot, fetchSwap, h]
    split <;> exact ⟨rfl, rfl, rfl⟩
  | quote currency => cases haction

/-- A query for a price depends on nothing but the oracle. -/
theorem act_congr_oracle {m m' : Market τ} (h : m.oracle = m'.oracle) {action : MarketAction}
    (haction : action.isQuote = true) :
    (m.act action).answer = (m'.act action).answer ∧ (m.act action).log = (m'.act action).log ∧
      (m.act action).state.oracle = (m'.act action).state.oracle := by
  cases action with
  | quote currency =>
    simp only [act, quotePrice, h]
    exact ⟨trivial, trivial, rfl⟩
  | _ => cases haction

/-- The client of the explorer service, which gives endpoints and snapshots. -/
def explorerHalf : Half τ (Client τ) where
  of := client
  owns := MarketAction.isExplorer
  kept m _ h := m.act_client (by simpa [MarketAction.isExplorer] using h)
  congr _ _ _ howns h := act_congr_client h (by simpa [MarketAction.isExplorer] using howns)

/-- The oracle, which gives prices. -/
def oracleHalf : Half τ Oracle where
  of := oracle
  owns := MarketAction.isQuote
  kept m _ h := m.act_oracle h
  congr _ _ _ howns h := act_congr_oracle h howns

/-- What is read of the hosts in a run is what the explorer half sees of it. -/
theorem readings_eq (m : Market τ) (actions : List MarketAction) :
    m.readings actions = (explorerHalf.trace m actions).filterMap fun seen =>
      if seen.2.1.readsHost then some seen.1.hosts.current else none := by
  rw [readings, Half.trace, List.filterMap_map, List.filterMap_filter]
  refine List.filterMap_congr fun x _ => ?_
  cases haction : x.action with
  | quote currency => simp [MarketMoment.reading?, explorerHalf, MarketAction.isExplorer,
      MarketAction.isQuote, MarketAction.readsHost, haction]
  | _ => simp [MarketMoment.reading?, explorerHalf, MarketAction.isExplorer, MarketAction.isQuote,
      Half.sees, client, haction]

/-! ### Runs -/

theorem explorer_congr {m m' : Market τ} (h : m.client = m'.client)
    {actions actions' : List MarketAction}
    (hsame : actions.filter MarketAction.isExplorer = actions'.filter MarketAction.isExplorer) :
    m.answersTo MarketAction.isExplorer actions = m'.answersTo MarketAction.isExplorer actions' ∧
      m.readings actions = m'.readings actions' ∧
      (m.run actions).state.client = (m'.run actions').state.client := by
  let half : Half τ (Client τ) := explorerHalf
  obtain ⟨htrace, hstate⟩ := half.trace_congr h hsame
  refine ⟨half.answersTo_congr h hsame, ?_, hstate⟩
  rw [m.readings_eq, m'.readings_eq]
  exact congrArg (List.filterMap _) htrace

theorem oracle_congr {m m' : Market τ} (h : m.oracle = m'.oracle)
    {actions actions' : List MarketAction}
    (hsame : actions.filter MarketAction.isQuote = actions'.filter MarketAction.isQuote) :
    m.answersTo MarketAction.isQuote actions = m'.answersTo MarketAction.isQuote actions' ∧
      (m.run actions).state.oracle = (m'.run actions').state.oracle := by
  let half : Half τ Oracle := oracleHalf
  exact ⟨half.answersTo_congr h hsame, (half.trace_congr h hsame).2⟩

/-- The halves of a run do not notice each other. -/
structure Apart (m : Market (Recorder τ)) (actions : List MarketAction) : Prop where
  /-- The moments are those of the run, in order. -/
  moments : (m.moments actions).map MarketMoment.action = actions ∧
    (m.moments actions).map MarketMoment.answer = (m.run actions).answer
  /-- The current supplier of hosts is read once where a moment has a reading, and never
  otherwise. -/
  hosts : ∀ x ∈ m.moments actions,
    (x.market.act x.action).state.hosts = x.action.hostsAfter x.market.hosts
  /-- A query for a price neither reads the host nor requests anything from the explorer service. -/
  quote : ∀ x ∈ m.moments actions, x.action.isQuote = true →
    (x.market.act x.action).state.client = x.market.client
  /-- Nothing else asks the oracle. -/
  explorer : ∀ x ∈ m.moments actions, x.action.isQuote = false →
    (x.market.act x.action).state.oracle = x.market.oracle
  /-- Without the queries for prices, all other answers, the hosts that are read, and the requests
  to the explorer service are as they were. -/
  without_quotes : let others := actions.filter MarketAction.isExplorer
    m.answersTo MarketAction.isExplorer actions = (m.run others).answer ∧
    m.readings actions = m.readings others ∧
    (m.run actions).state.transport.requests = (m.run others).state.transport.requests ∧
    (m.run actions).state.client = (m.run others).state.client
  /-- Without anything else, the prices are as they were, and so is the oracle with all that it has
  been asked. -/
  only_quotes : let quotes := actions.filter MarketAction.isQuote
    m.answersTo MarketAction.isQuote actions = (m.run quotes).answer ∧
    (m.run actions).state.oracle = (m.run quotes).state.oracle
  /-- The explorer half is the same whatever the oracle answers and whatever it is asked. -/
  explorer_alone : ∀ (m' : Market (Recorder τ)) (actions' : List MarketAction),
    m'.client = m.client →
    actions'.filter MarketAction.isExplorer = actions.filter MarketAction.isExplorer →
    m'.answersTo MarketAction.isExplorer actions' = m.answersTo MarketAction.isExplorer actions ∧
    m'.readings actions' = m.readings actions ∧
    (m'.run actions').state.client = (m.run actions).state.client
  /-- The prices are the same whatever the explorer service answers and whatever it is asked. -/
  oracle_alone : ∀ (m' : Market (Recorder τ)) (actions' : List MarketAction),
    m'.oracle = m.oracle →
    actions'.filter MarketAction.isQuote = actions.filter MarketAction.isQuote →
    m'.answersTo MarketAction.isQuote actions' = m.answersTo MarketAction.isQuote actions ∧
    (m'.run actions').state.oracle = (m.run actions).state.oracle

/-- **Snapshots and prices do not interfere**, whatever is done with a market query, in whatever
order, and whatever the explorer service and the oracle answer. -/
theorem run_apart (m : Market (Recorder τ)) (actions : List MarketAction) : Apart m actions where
  moments := ⟨m.moments_action actions, m.moments_answer actions⟩
  hosts x _ := x.market.act_hosts x.action
  quote x _ h := x.market.act_client h
  explorer x _ h := x.market.act_oracle h
  without_quotes := by
    have hsame : actions.filter MarketAction.isExplorer =
        (actions.filter MarketAction.isExplorer).filter MarketAction.isExplorer := by
      simp
    obtain ⟨hanswers, hreadings, hclient⟩ := explorer_congr (m := m) rfl hsame
    refine ⟨?_, hreadings, congrArg (fun c => c.transport.requests) hclient, hclient⟩
    exact hanswers.trans (explorerHalf.answersTo_filter_owns m actions)
  only_quotes := by
    have hsame : actions.filter MarketAction.isQuote =
        (actions.filter MarketAction.isQuote).filter MarketAction.isQuote := by
      simp
    obtain ⟨hanswers, horacle⟩ := oracle_congr (m := m) rfl hsame
    exact ⟨hanswers.trans (oracleHalf.answersTo_filter_owns m actions), horacle⟩
  explorer_alone _ _ h hsame := explorer_congr h hsame
  oracle_alone _ _ h hsame := oracle_congr h hsame

end Market

end LedgerLookup
