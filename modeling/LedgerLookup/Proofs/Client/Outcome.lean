import LedgerLookup.Proofs.Client.Lookup
import LedgerLookup.Proofs.Page

/-!
# Outcomes of lookups

What a lookup without a time limit answers, for every page, every reply and every failure of the
transport.  The stages are decided in order: the page, the exchange, the status, the body, and last
what the body holds.  An unknown identifier is never confused with a failure.
-/

namespace LedgerLookup.Client

open Http (Transport Recorder)
open Json (Value Members)

variable {τ : Type} [Transport τ]

/-- **The answer of a lookup, by the stage that decides it.**  A page that cannot be sent is refused
with the client as it was, the offset being named first.  Every other lookup makes one request, and
what is wrong with the exchange, the status or the body of the reply is the answer, in this order.
The identifier is unknown exactly when a reply that says success has an object for its body which
holds nothing under any of the keys. -/
theorem resolve_answer_by_stage (c : Client (Recorder τ)) (identifier : String)
    (page : Option Page) (endpoint : Option Endpoint) :
    let given := page.getD {}
    let step := c.resolve ⟨identifier, given, .unbounded endpoint⟩
    let url := hashUrl (endpoint.getD (c.locator.locate c.hosts.current)) identifier
    let outcome := fun w => (Transport.get c.transport (url w)).1.outcome
    (∀ i, given.offset = some i → i.val < 0 →
      step = ⟨.error (.invalidPage ⟨.offset, i.val⟩), [], c⟩) ∧
    (∀ i, (∀ j, given.offset = some j → 0 ≤ j.val) → given.limit = some i → i.val ≤ 0 →
      step = ⟨.error (.invalidPage ⟨.limit, i.val⟩), [], c⟩) ∧
    (given.Sendable → ∃ w, given.window = .ok w ∧ given.FilledBy w ∧
      step.state.transport.requests = c.transport.requests ++ [url w] ∧
      (∀ f, outcome w = .error f → step.answer = .error f) ∧
      (∀ r, outcome w = .ok r → ¬ (200 ≤ r.status ∧ r.status ≤ 299) →
        ∃ cause, step.answer = .error (.fetch (url w) (.status r.status) (some cause))) ∧
      (∀ r, outcome w = .ok r → 200 ≤ r.status ∧ r.status ≤ 299 →
        (∀ ms, Value.parse r.body ≠ .ok (.object ms)) →
        ∃ cause, step.answer = .error (.fetch (url w) .decode (some cause))) ∧
      (∀ r ms, outcome w = .ok r → 200 ≤ r.status ∧ r.status ≤ 299 →
        Value.parse r.body = .ok (.object ms) →
        step.answer = .ok ((Envelope.ofMembers ms).classify identifier))) ∧
    (∀ x, step.answer = .ok (.notFound x) ↔ x = identifier ∧
      ∃ w r ms, given.window = .ok w ∧ outcome w = .ok r ∧ (200 ≤ r.status ∧ r.status ≤ 299) ∧
        Value.parse r.body = .ok (.object ms) ∧
        ∀ k : ResourceKind,
          Members.get? k.key ms = none ∨ Members.get? k.key ms = some .null) := by
  intro given step url outcome
  have hanswer : ∀ w, given.window = .ok w →
      step.answer = Sent.settle ⟨identifier, url w, none⟩ (outcome w) := fun w hw =>
    answer_of_unbounded c identifier endpoint hw rfl
  refine ⟨fun i ho hi => resolve_of_error c _ (Page.window_of_offset_neg ho hi),
    fun i ho hl hi => resolve_of_error c _ (Page.window_of_limit_nonpos ho hl hi), fun hs => ?_,
    fun x => ?_⟩
  · obtain ⟨w, hw, hfill⟩ := hs.exists_window
    refine ⟨w, hw, hfill, ?_, ?_, ?_, ?_, ?_⟩
    · show (c.resolve ⟨identifier, given, .unbounded endpoint⟩).state.transport.requests = _
      rw [resolve_requests, LookupRequest.url?_of_ok hw]
      rfl
    · intro f hf
      rw [hanswer w hw, hf, Sent.settle_error]
    · intro r hr hstatus
      have hfail : r.isSuccess = false := by
        rw [← Bool.not_eq_true, Http.Reply.isSuccess_iff]
        exact hstatus
      exact ⟨_, by rw [hanswer w hw, hr, Sent.settle_of_not_success hfail]⟩
    · intro r hr hstatus hbody
      obtain ⟨e, he⟩ := Sent.settle_of_not_object (s := ⟨identifier, url w, none⟩)
        (Http.Reply.isSuccess_iff.mpr hstatus) hbody
      exact ⟨_, by rw [hanswer w hw, hr, he]⟩
    · intro r ms hr hstatus hbody
      rw [hanswer w hw, hr, Sent.settle_of_object (Http.Reply.isSuccess_iff.mpr hstatus) hbody]
  -- the page is settled first: a refused one is never the answer of an unknown identifier
  · cases hw : given.window with
    | error e =>
      have hstep : step.answer = .error (.invalidPage e) :=
        congrArg Step.answer (resolve_of_error c _ hw)
      simp [hstep]
    | ok w =>
      rw [hanswer w hw, Sent.settle_eq_notFound_iff]
      simp only [Http.Reply.isSuccess_iff]
      constructor
      · rintro ⟨hx, r, ms, hr⟩
        exact ⟨hx, w, r, ms, rfl, hr⟩
      · rintro ⟨hx, w', r, ms, hw', hr⟩
        cases hw'
        exact ⟨hx, r, ms, hr⟩

end LedgerLookup.Client
