import LedgerLookup.Market.Query
import LedgerLookup.Proofs.Client.Accounts

/-!
# Swap snapshots

A query for the swap snapshot reads the host once, makes one request and never fails: what keeps the
snapshot from being had becomes one warning.  The reply is read in the same way as that to a lookup,
except that it may hold any value and not only an object.
-/

namespace LedgerLookup

open Http (Transport Recorder Reply)
open Json (Value)

/-- Whether a line warns of something. -/
def LogLine.isWarning : LogLine → Bool
  | noSnapshot _ => true
  | ignored _ => true
  | _ => false

/-! ### Replies as values -/

theorem Http.Reply.decode_any_eq_ok_iff {r : Reply} {url : String} {v : Value} :
    r.decode .any url = .ok v ↔ r.isSuccess = true ∧ Value.parse r.body = .ok v := by
  have hany : Json.Codec.any.fromText r.body = Value.parse r.body := rfl
  unfold decode
  cases r.isSuccess with
  | false => simp
  | true => cases hparse : Value.parse r.body <;> simp [hany, hparse, Except.mapError]

theorem Http.Reply.decode_any_of_not_success {r : Reply} (h : r.isSuccess = false) (url : String) :
    r.decode .any url =
      .error (.fetch url (.status r.status) (some (.note r.preview))) := by
  simp [decode, h]

theorem Http.Reply.decode_any_of_no_value {r : Reply} {e : Json.Error} (h : r.isSuccess = true)
    (hparse : Value.parse r.body = .error e) (url : String) :
    r.decode .any url = .error (.fetch url .decode (some (.json e))) := by
  have hany : Json.Codec.any.fromText r.body = Value.parse r.body := rfl
  simp [decode, h, hany, hparse, Except.mapError]

/-- The value in a reply, unless the request or the reply fails. -/
def Http.valueOf (url : String) (outcome : Except Failure Reply) : Except Failure Value :=
  outcome.bind fun reply => reply.decode .any url

theorem Http.valueOf_eq_ok_iff {url : String} {outcome : Except Failure Reply} {v : Value} :
    Http.valueOf url outcome = .ok v ↔
      ∃ r, outcome = .ok r ∧ r.isSuccess = true ∧ Value.parse r.body = .ok v := by
  cases outcome with
  | error f => simp [valueOf, Except.bind]
  | ok r => simp [valueOf, Except.bind, Http.Reply.decode_any_eq_ok_iff]

/-! ### The same reply to two requests -/

/-- Two requests have the same outcome: equal replies, or failures of one kind. -/
inductive Http.SameOutcome : Except Failure Reply → Except Failure Reply → Prop where
  | reply (r : Reply) : SameOutcome (.ok r) (.ok r)
  | failure {f f' : Failure} (kind : f.fetchKind? = f'.fetchKind?) :
    SameOutcome (.error f) (.error f')

section

variable {s : Sent} {url : String} {outcome outcome' : Except Failure Reply}

/-- What a lookup finds, it finds in the value of the reply. -/
theorem Http.SameOutcome.valueOf_of_settle (h : Http.SameOutcome outcome' outcome)
    {resolved : Resolved} (hs : s.settle outcome' = .ok resolved) :
    ∃ ms, Http.valueOf url outcome = .ok (.object ms) ∧
      resolved = (Envelope.ofMembers ms).classify s.identifier := by
  cases h with
  | failure kind => cases hs
  | reply r =>
    cases hr : r.isSuccess with
    | false => rw [Sent.settle_of_not_success hr] at hs; cases hs
    | true =>
      by_cases hbody : ∃ ms, Value.parse r.body = .ok (.object ms)
      · obtain ⟨ms, hms⟩ := hbody
        rw [Sent.settle_of_object hr hms, Except.ok.injEq] at hs
        exact ⟨ms, Http.valueOf_eq_ok_iff.mpr ⟨r, rfl, hr, hms⟩, hs.symm⟩
      · obtain ⟨e, he⟩ := Sent.settle_of_not_object (s := s) hr (not_exists.mp hbody)
        rw [he] at hs
        cases hs

/-- What goes wrong before the body is read goes wrong for both. -/
theorem Http.SameOutcome.error_of_settle (h : Http.SameOutcome outcome' outcome) {f : Failure}
    {kind : FetchKind} (hs : s.settle outcome' = .error f) (hf : f.fetchKind? = some kind)
    (hkind : kind ≠ .decode) :
    ∃ e, Http.valueOf url outcome = .error e ∧ e.fetchKind? = some kind := by
  cases h with
  | @failure f₁ f₂ hsame =>
    rw [Sent.settle_error, Except.error.injEq] at hs
    subst hs
    exact ⟨f₂, rfl, hsame.symm.trans hf⟩
  | reply r =>
    cases hr : r.isSuccess with
    | false =>
      rw [Sent.settle_of_not_success hr, Except.error.injEq] at hs
      subst hs
      exact ⟨_, Http.Reply.decode_any_of_not_success hr url, hf⟩
    | true =>
      -- a reply that says success can only be decoded badly
      exfalso
      by_cases hbody : ∃ ms, Value.parse r.body = .ok (.object ms)
      · obtain ⟨ms, hms⟩ := hbody
        rw [Sent.settle_of_object hr hms] at hs
        cases hs
      · obtain ⟨e, he⟩ := Sent.settle_of_not_object (s := s) hr (not_exists.mp hbody)
        rw [he, Except.error.injEq] at hs
        subst hs
        exact hkind (Option.some.inj hf).symm

/-- There is a value where a lookup fails exactly when the reply is good and holds no object. -/
theorem Http.SameOutcome.value_and_error_iff (h : Http.SameOutcome outcome' outcome) {v : Value} :
    (Http.valueOf url outcome = .ok v ∧ ∃ f, s.settle outcome' = .error f) ↔
      ∃ r, outcome = .ok r ∧ r.isSuccess = true ∧ Value.parse r.body = .ok v ∧
        ∀ ms, v ≠ .object ms := by
  rw [Http.valueOf_eq_ok_iff]
  constructor
  · rintro ⟨⟨r, rfl, hr, hv⟩, f, hf⟩
    refine ⟨r, rfl, hr, hv, ?_⟩
    rintro ms rfl
    cases h
    rw [Sent.settle_of_object hr hv] at hf
    cases hf
  · rintro ⟨r, rfl, hr, hv, hno⟩
    refine ⟨⟨r, rfl, hr, hv⟩, ?_⟩
    have hbody : ∀ ms, Value.parse r.body ≠ .ok (.object ms) := by
      intro ms hms
      rw [hv, Except.ok.injEq] at hms
      exact hno ms hms
    cases h
    obtain ⟨e, he⟩ := Sent.settle_of_not_object (s := s) hr hbody
    exact ⟨_, he⟩

end

/-! ### The query -/

/-- The wording of a failed exchange names its kind. -/
theorem Failure.message_of_fetchKind {f : Failure} {kind : FetchKind}
    (h : f.fetchKind? = some kind) :
    ∃ target, f.message = "Fetch failed for " ++ target ++ ": " ++ kind.text := by
  cases f with
  | fetch target k cause =>
    obtain rfl : k = kind := Option.some.inj h
    exact ⟨target, rfl⟩
  | invalidPage e => cases h
  | invalidSetting setting => cases h

namespace Market

section

variable {τ : Type} [Transport τ] (m : Market τ)

/-- The URL of the snapshot under the host of this moment. -/
def swapUrl : String := (m.locator.locate m.hosts.current).authority ++ "/explorer/swap"

/-- What the transport makes of the request for the snapshot. -/
def swapExchange : Http.Exchange := (Transport.get m.transport m.swapUrl).1

/-- What is logged until the reply is read. -/
def swapLines : List LogLine :=
  .located m.hosts.current (.ofHost m.hosts.current) (m.locator.locate m.hosts.current) ::
    m.swapExchange.log

theorem fetchSwap_eq :
    m.fetchSwap = ⟨Http.valueOf m.swapUrl m.swapExchange.outcome, m.swapLines,
      ⟨m.locator, m.hosts.advance, (Transport.get m.transport m.swapUrl).2, m.oracle⟩⟩ := rfl

theorem swapSnapshot_of_ok {v : Value}
    (h : Http.valueOf m.swapUrl m.swapExchange.outcome = .ok v) :
    m.swapSnapshot = ⟨some v, m.swapLines, m.fetchSwap.state⟩ := by
  simp only [swapSnapshot, fetchSwap_eq, h]

theorem swapSnapshot_of_error {e : Failure}
    (h : Http.valueOf m.swapUrl m.swapExchange.outcome = .error e) :
    m.swapSnapshot = ⟨none, m.swapLines ++ [.noSnapshot e], m.fetchSwap.state⟩ := by
  simp only [swapSnapshot, fetchSwap_eq, h]

theorem swapSnapshot_state : m.swapSnapshot.state = m.fetchSwap.state := by
  cases h : Http.valueOf m.swapUrl m.swapExchange.outcome with
  | ok v => rw [m.swapSnapshot_of_ok h]
  | error e => rw [m.swapSnapshot_of_error h]

theorem swapSnapshot_eq_some_iff {v : Value} :
    m.swapSnapshot.answer = some v ↔ Http.valueOf m.swapUrl m.swapExchange.outcome = .ok v := by
  cases h : Http.valueOf m.swapUrl m.swapExchange.outcome with
  | ok v' => simp [m.swapSnapshot_of_ok h]
  | error e => simp [m.swapSnapshot_of_error h]

end

section

variable {τ : Type} [Transport τ]

/-- What a query for the snapshot does, and what it answers by the reply. -/
structure SnapshotByReply (m : Market (Recorder τ)) : Prop where
  /-- The host is read once. -/
  hosts : m.swapSnapshot.state.hosts = m.hosts.advance
  /-- There is one request, at the endpoint of the host that is read. -/
  requests : m.swapSnapshot.state.transport.requests = m.transport.requests ++ [m.swapUrl]
  /-- The snapshot is the value of a good reply. -/
  some_iff : ∀ v, m.swapSnapshot.answer = some v ↔ ∃ r, m.swapExchange.outcome = .ok r ∧
    (200 ≤ r.status ∧ r.status ≤ 299) ∧ Value.parse r.body = .ok v
  /-- With a snapshot, nothing is logged but the host and what the transport logs. -/
  log_some : ∀ v, m.swapSnapshot.answer = some v → m.swapSnapshot.log = m.swapLines
  /-- Without one, there is one warning more, with the text of what went wrong: the request, or else
  the status, or else the body. -/
  log_none : m.swapSnapshot.answer = none → ∃ e,
    m.swapSnapshot.log = m.swapLines ++ [.noSnapshot e] ∧
    (LogLine.noSnapshot e).text = "WARN Swap snapshot unavailable: " ++ e.message ∧
    (∀ f, m.swapExchange.outcome = .error f → e = f) ∧
    (∀ r, m.swapExchange.outcome = .ok r → ¬ (200 ≤ r.status ∧ r.status ≤ 299) →
      ∃ cause, e = .fetch m.swapUrl (.status r.status) (some cause)) ∧
    (∀ r, m.swapExchange.outcome = .ok r → 200 ≤ r.status ∧ r.status ≤ 299 →
      ∃ err, Value.parse r.body = .error err ∧ e = .fetch m.swapUrl .decode (some (.json err)))
  /-- Over a transport that logs only its requests, that is the only warning. -/
  warnings : Http.LogsRequests τ →
    (m.swapSnapshot.log.filter LogLine.isWarning = [] ↔ ∃ v, m.swapSnapshot.answer = some v) ∧
    (m.swapSnapshot.answer = none →
      ∃ e, m.swapSnapshot.log.filter LogLine.isWarning = [.noSnapshot e])
  /-- A lookup that meets the same outcome agrees.  Where it finds something or finds that there is
  nothing, the snapshot is the object in which it has looked.  Where it fails for another reason
  than the body, there is no snapshot, and the warning names the same reason.  It fails beside a
  snapshot exactly when the body of a good reply is a value and no object. -/
  lookup : ∀ {σ : Type} [Transport σ] (c : Client σ) (identifier : String) (page : Page)
    (endpoint : Option Endpoint) (w : Window), page.window = .ok w →
    let url := hashUrl (endpoint.getD (c.locator.locate c.hosts.current)) identifier w
    let answer := (c.resolve ⟨identifier, page, .unbounded endpoint⟩).answer
    Http.SameOutcome (Transport.get c.transport url).1.outcome m.swapExchange.outcome →
    (∀ resolved, answer = .ok resolved → ∃ ms, m.swapSnapshot.answer = some (.object ms) ∧
      resolved = (Envelope.ofMembers ms).classify identifier) ∧
    (∀ f kind, answer = .error f → f.fetchKind? = some kind → kind ≠ .decode →
      m.swapSnapshot.answer = none ∧ ∃ e target,
        m.swapSnapshot.log = m.swapLines ++ [.noSnapshot e] ∧ e.fetchKind? = some kind ∧
        (LogLine.noSnapshot e).text =
          "WARN Swap snapshot unavailable: Fetch failed for " ++ target ++ ": " ++ kind.text) ∧
    (∀ v, (m.swapSnapshot.answer = some v ∧ ∃ f, answer = .error f) ↔
      ∃ r, m.swapExchange.outcome = .ok r ∧ (200 ≤ r.status ∧ r.status ≤ 299) ∧
        Value.parse r.body = .ok v ∧ ∀ ms, v ≠ .object ms)

theorem filter_swapLines {m : Market (Recorder τ)} (hlogs : Http.LogsRequests τ) :
    m.swapLines.filter LogLine.isWarning = [] := by
  rw [List.filter_eq_nil_iff]
  intro line hline
  rcases List.mem_cons.mp hline with rfl | hline
  · simp [LogLine.isWarning]
  · obtain ⟨u, rfl⟩ := hlogs.recorder m.transport m.swapUrl line hline
    simp [LogLine.isWarning]

/-- What keeps a snapshot from being had. -/
theorem error_of_valueOf {m : Market τ} {e : Failure}
    (h : Http.valueOf m.swapUrl m.swapExchange.outcome = .error e) :
    (∀ f, m.swapExchange.outcome = .error f → e = f) ∧
    (∀ r, m.swapExchange.outcome = .ok r → ¬ (200 ≤ r.status ∧ r.status ≤ 299) →
      ∃ cause, e = .fetch m.swapUrl (.status r.status) (some cause)) ∧
    (∀ r, m.swapExchange.outcome = .ok r → 200 ≤ r.status ∧ r.status ≤ 299 →
      ∃ err, Value.parse r.body = .error err ∧
        e = .fetch m.swapUrl .decode (some (.json err))) := by
  refine ⟨fun f hf => ?_, fun r hr hstatus => ?_, fun r hr hstatus => ?_⟩
  · rw [hf] at h
    exact (Except.error.inj h).symm
  · have hfail : r.isSuccess = false := by
      rw [← Bool.not_eq_true, Http.Reply.isSuccess_iff]
      exact hstatus
    have hdecode : Http.valueOf m.swapUrl (.ok r) = _ :=
      Http.Reply.decode_any_of_not_success hfail m.swapUrl
    rw [hr, hdecode, Except.error.injEq] at h
    exact ⟨_, h.symm⟩
  · have hsuccess : r.isSuccess = true := Http.Reply.isSuccess_iff.mpr hstatus
    cases hparse : Value.parse r.body with
    | ok v =>
      rw [Http.valueOf_eq_ok_iff.mpr ⟨r, hr, hsuccess, hparse⟩] at h
      cases h
    | error err =>
      have hdecode : Http.valueOf m.swapUrl (.ok r) = _ :=
        Http.Reply.decode_any_of_no_value hsuccess hparse m.swapUrl
      rw [hr, hdecode, Except.error.injEq] at h
      exact ⟨err, rfl, h.symm⟩

/-- **A query for the swap snapshot degrades.**  It makes one request, whatever becomes of it, and
never fails: there is a snapshot, or one warning with the text of the failure.  It is consistent
with a lookup that meets the same outcome. -/
theorem swapSnapshot_by_reply (m : Market (Recorder τ)) : SnapshotByReply m where
  hosts := by
    rw [swapSnapshot_state]
    rfl
  requests := by
    rw [swapSnapshot_state]
    rfl
  some_iff v := by
    rw [swapSnapshot_eq_some_iff, Http.valueOf_eq_ok_iff]
    simp only [Http.Reply.isSuccess_iff]
  log_some v hv := by
    rw [m.swapSnapshot_of_ok (m.swapSnapshot_eq_some_iff.mp hv)]
  log_none hnone := by
    cases h : Http.valueOf m.swapUrl m.swapExchange.outcome with
    | ok v => rw [m.swapSnapshot_of_ok h] at hnone; cases hnone
    | error e =>
      rw [m.swapSnapshot_of_error h]
      exact ⟨e, rfl, rfl, error_of_valueOf h⟩
  warnings hlogs := by
    cases h : Http.valueOf m.swapUrl m.swapExchange.outcome with
    | ok v => simp [m.swapSnapshot_of_ok h, filter_swapLines hlogs]
    | error e =>
      rw [m.swapSnapshot_of_error h, List.filter_append, filter_swapLines hlogs]
      refine ⟨?_, fun _ => ⟨e, rfl⟩⟩
      simp [LogLine.isWarning]
  lookup c identifier page endpoint w hw := by
    intro url answer hsame
    have hanswer : answer = Sent.settle ⟨identifier, url, none⟩
        (Transport.get c.transport url).1.outcome :=
      c.answer_of_unbounded identifier endpoint hw rfl
    refine ⟨fun resolved hr => ?_, fun f kind hf hkind hne => ?_, fun v => ?_⟩
    · obtain ⟨ms, hms, hclassify⟩ := hsame.valueOf_of_settle (hanswer.symm.trans hr)
      exact ⟨ms, m.swapSnapshot_eq_some_iff.mpr hms, hclassify⟩
    · obtain ⟨e, he, hkind'⟩ := hsame.error_of_settle (hanswer.symm.trans hf) hkind hne
      obtain ⟨target, htext⟩ := Failure.message_of_fetchKind hkind'
      rw [m.swapSnapshot_of_error he]
      refine ⟨rfl, e, target, rfl, hkind', ?_⟩
      have hwords : "WARN Swap snapshot unavailable: " ++ "Fetch failed for " =
          "WARN Swap snapshot unavailable: Fetch failed for " := rfl
      show "WARN Swap snapshot unavailable: " ++ e.message = _
      rw [htext, ← hwords]
      simp only [String.append_assoc]
    · rw [swapSnapshot_eq_some_iff, hanswer, hsame.value_and_error_iff]
      simp only [Http.Reply.isSuccess_iff]

end

end Market

end LedgerLookup
