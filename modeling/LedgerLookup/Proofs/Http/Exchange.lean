import LedgerLookup.Http.Body
import LedgerLookup.Proofs.Http.Network
import LedgerLookup.Proofs.Results

/-!
# Failures of requests

How a request over a network fails for the explorer client: which kind of failure is what becomes of
the request, and when nothing but the body can be wrong.
-/

namespace LedgerLookup

open Http (Network WireOutcome Transport Reply)

/-! ### Kinds of failures -/

/-- The answer is the failure of an exchange, of the given kind. -/
def FailsWith {α : Type} (answer : Except Failure α) (kind : FetchKind) : Prop :=
  ∃ f, answer = .error f ∧ f.fetchKind? = some kind

@[simp] theorem not_failsWith_ok {α : Type} (a : α) (kind : FetchKind) :
    ¬ FailsWith (.ok a) kind := by
  rintro ⟨f, hf, -⟩
  cases hf

@[simp] theorem failsWith_fetch_iff {α : Type} {target : String} {kind kind' : FetchKind}
    {cause : Option Cause} :
    FailsWith (.error (.fetch target kind cause) : Except Failure α) kind' ↔ kind = kind' := by
  simp [FailsWith, Failure.fetchKind?]

/-- The kind of a failed exchange decides the advice. -/
theorem Failure.retry_congr {f f' : Failure} {kind : FetchKind} (h : f.fetchKind? = some kind)
    (h' : f'.fetchKind? = some kind) : f.retry = f'.retry := by
  cases f with
  | fetch target k cause =>
    cases f' with
    | fetch target' k' cause' =>
      obtain rfl : k = kind := Option.some.inj h
      obtain rfl : k' = k := Option.some.inj h'
      cases k' <;> rfl
    | invalidPage e => cases h'
    | invalidSetting s => cases h'
  | invalidPage e => cases h
  | invalidSetting s => cases h

/-! ### Outcomes on the wire -/

/-- The kind of failure that can be told without the body: whether an answer came, and its status.
There is no outcome where there is no request, or where its redirects are not followed to an end. -/
def Http.kindBeforeBody? : Option WireOutcome → Option FetchKind
  | none | some .unreachable | some .closed => some .transport
  | some .silent => some .timeout
  | some (.answered status _ _ _) => if Http.isSuccess status then none else some (.status status)

/-- Whether a body ends before the length that it announces. -/
def Http.isCut : Option WireOutcome → Bool
  | some (.answered status _ complete _) => Http.allowsBody status && !complete
  | _ => false

theorem Http.isCut_iff {outcome : Option WireOutcome} :
    Http.isCut outcome = true ↔
      ∃ status body location, outcome = some (.answered status body false location) ∧
        Http.allowsBody status = true := by
  cases outcome with
  | none => simp [Http.isCut]
  | some w =>
    cases w with
    | answered status body complete location =>
      simp only [Http.isCut, Bool.and_eq_true, Bool.not_eq_true', Option.some.injEq,
        WireOutcome.answered.injEq]
      constructor
      · rintro ⟨hallows, rfl⟩
        exact ⟨status, body, location, ⟨rfl, rfl, rfl, rfl⟩, hallows⟩
      · rintro ⟨_, _, _, ⟨rfl, rfl, rfl, rfl⟩, hallows⟩
        exact ⟨hallows, rfl⟩
    | _ => simp [Http.isCut]

theorem Http.isCut_answered (status : Nat) (body : List UInt8) (complete : Bool)
    (location : Option Url) :
    Http.isCut (some (.answered status body complete location)) =
      (Network.receivedBody status body complete).isNone := by
  cases hbody : Http.allowsBody status <;> cases complete <;>
    simp [Http.isCut, Network.receivedBody, hbody]

/-- A reply that says success can only fail to be read. -/
theorem Http.Reply.decode_failsWith_iff {α : Type} {codec : Json.Codec α} {r : Reply} {url : String}
    {kind : FetchKind} (hkind : kind ≠ .decode) :
    FailsWith (r.decode codec url) kind ↔ r.isSuccess = false ∧ kind = .status r.status := by
  unfold decode
  cases hsuccess : r.isSuccess with
  | true =>
    cases codec.fromText r.body <;> simp [Except.mapError, hkind.symm]
  | false => simp [eq_comm]

/-- How a request over a network fails for the explorer client: without a complete answer before
anything else. -/
theorem fetch_failsWith_iff {α : Type} (codec : Json.Codec α) (n : Network) (url : String)
    {kind : FetchKind} (hkind : kind ≠ .decode) :
    FailsWith ((Transport.get n url).1.outcome.bind fun r => r.decode codec url) kind ↔
      (if Http.isCut (n.outcomeOf? url) then some .transport
        else Http.kindBeforeBody? (n.outcomeOf? url)) = some kind := by
  cases houtcome : n.outcomeOf? url with
  | none =>
    obtain ⟨fault, hfault⟩ := Network.get_outcome_of_no_outcome houtcome
    simp [hfault, Except.bind, Http.isCut, Http.kindBeforeBody?]
  | some wire =>
    obtain ⟨asked, place, hget⟩ := Network.get_outcome_of_outcome houtcome
    rw [hget]
    cases wire with
    | answered status body complete location =>
      rw [Http.isCut_answered]
      cases hbody : Network.receivedBody status body complete with
      | none =>
        simp [Network.outcomeAt, hbody, Http.RawReply.read, Except.bind, Except.mapError,
          Http.Fault.fetchKind]
      | some bytes =>
        simp only [Network.outcomeAt, hbody, Http.RawReply.read, Except.bind, Except.mapError,
          Option.isNone_some, Bool.false_eq_true, if_false, Http.Reply.decode_failsWith_iff hkind,
          Http.Reply.isSuccess, Http.kindBeforeBody?]
        cases Http.isSuccess status <;> simp [eq_comm]
    | _ =>
      simp [Network.outcomeAt, Except.bind, Except.mapError, Http.Fault.fetchKind, Http.isCut,
        Http.kindBeforeBody?]

end LedgerLookup
