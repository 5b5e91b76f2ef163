import LedgerLookup.Market.Oracle
import LedgerLookup.Proofs.Decimal.Value
import LedgerLookup.Proofs.Http.Network
import LedgerLookup.Proofs.Results

/-!
# Rates in answers

What the exchange-rates oracle makes of an answer, stage by stage: the status, the body, the rate
for the currency in it, and the number that the rate stands for.
-/

namespace LedgerLookup

open Http (Network RawReply)

namespace ExchangeRates

/-! ### The rate -/

theorem parseRate_of_error {raw : String} {e : Decimal.ReadError}
    (h : Decimal.read (Text.trim raw.toList) = .error e) :
    parseRate raw = .error (.invalid
      ("Invalid rate '" ++ String.ofList (Text.trim raw.toList) ++ "': " ++ e.message)) := by
  simp [parseRate, h]

theorem parseRate_of_pos {raw : String} {p : Decimal}
    (h : Decimal.read (Text.trim raw.toList) = .ok p) (hpos : 0 < p.toRat) :
    parseRate raw = .ok p := by
  simp [parseRate, h, Decimal.isPositive_iff.mpr hpos]

theorem parseRate_of_nonpos {raw : String} {p : Decimal}
    (h : Decimal.read (Text.trim raw.toList) = .ok p) (hpos : p.toRat ≤ 0) :
    parseRate raw = .error (.invalid
      ("Non-positive rate '" ++ String.ofList (Text.trim raw.toList) ++ "'")) := by
  have hnot : p.isPositive = false := by
    rw [← Bool.not_eq_true, Decimal.isPositive_iff]
    exact not_lt.mpr hpos
  simp [parseRate, h, hnot]

/-- A rate is a price exactly when its text is that of a number above zero, in either notation. -/
theorem parseRate_eq_ok_iff {raw : String} {p : Decimal} :
    parseRate raw = .ok p ↔ Decimal.read (Text.trim raw.toList) = .ok p ∧ 0 < p.toRat := by
  refine ⟨fun h => ?_, fun ⟨hread, hpos⟩ => parseRate_of_pos hread hpos⟩
  cases hread : Decimal.read (Text.trim raw.toList) with
  | error e => rw [parseRate_of_error hread] at h; cases h
  | ok price =>
    rcases lt_or_ge 0 price.toRat with hpos | hpos
    · rw [parseRate_of_pos hread hpos] at h
      cases h
      exact ⟨rfl, hpos⟩
    · rw [parseRate_of_nonpos hread hpos] at h
      cases h

/-- Every other rate is invalid. -/
theorem exists_message_of_parseRate {raw : String} {cause : RateError}
    (h : parseRate raw = .error cause) : ∃ message, cause = .invalid message := by
  cases hread : Decimal.read (Text.trim raw.toList) with
  | error e =>
    rw [parseRate_of_error hread, Except.error.injEq] at h
    exact ⟨_, h.symm⟩
  | ok price =>
    rcases lt_or_ge 0 price.toRat with hpos | hpos
    · rw [parseRate_of_pos hread hpos] at h
      cases h
    · rw [parseRate_of_nonpos hread hpos, Except.error.injEq] at h
      exact ⟨_, h.symm⟩

/-! ### The answer -/

/-- Only a silence counts as a timeout. -/
theorem ofFault_of_not_timedOut {fault : Http.Fault} (h : ∀ place, fault ≠ .timedOut place) :
    ofFault fault = .network fault := by
  cases fault with
  | timedOut place => exact absurd rfl (h place)
  | _ => rfl

variable {base quote : String} {reply : RawReply}

theorem readReply_of_rateLimited (h : reply.status = 429) :
    readReply base quote reply = .error (.rateLimited id) := by
  simp [readReply, h, throw, throwThe, MonadExceptOf.throw]

/-- The body of an answer that is no success does not count. -/
theorem readReply_of_not_success (hlimit : reply.status ≠ 429)
    (h : Http.isSuccess reply.status = false) :
    readReply base quote reply = .error (.refused id (some reply.status)
      ("HTTP " ++ Text.decimal reply.status ++ " " ++ Http.reason reply.status)) := by
  simp [readReply, hlimit, h, throw, throwThe, MonadExceptOf.throw]

/-- The rate that the body of an answer gives. -/
def readRate (base quote : String) (body : List UInt8) : Except RateError Rate := do
  let answer ← readBody body
  match answer.data.rates.lookup quote with
  | none => .error (.currencyNotFound (base ++ "/" ++ quote))
  | some raw => (parseRate raw).map fun price => { base, quote, price, source := id }

theorem readReply_of_success (h : Http.isSuccess reply.status = true) :
    readReply base quote reply =
      match reply.body with
      | none => .error unreadable
      | some body => readRate base quote body := by
  have hlimit : reply.status ≠ 429 := by
    rintro hlimit
    rw [hlimit] at h
    exact absurd h (by decide)
  cases hbody : reply.body with
  | none => simp [readReply, hlimit, h, hbody, pure, Except.pure]
  | some body =>
    simp only [readReply, hlimit, h, hbody, readRate, if_false, Bool.not_true, Bool.false_eq_true,
      ok_bind, pure, Except.pure]
    cases readBody body with
    | error e => rfl
    | ok answer =>
      simp only [ok_bind]
      cases answer.data.rates.lookup quote with
      | none => rfl
      | some raw => cases parseRate raw <;> rfl

/-! ### The body -/

variable {body : List UInt8} {answer : RateAnswer}

theorem readRate_of_undecodable {err : Json.Error}
    (h : RateAnswer.record.codec.ofDocument (.ofBytes body) = .error err) :
    readRate base quote body = .error unreadable := by
  simp [readRate, readBody, h, Except.mapError]

theorem readRate_of_no_rate (h : RateAnswer.record.codec.ofDocument (.ofBytes body) = .ok answer)
    (hrate : answer.data.rates.lookup quote = none) :
    readRate base quote body = .error (.currencyNotFound (base ++ "/" ++ quote)) := by
  simp [readRate, readBody, h, hrate, Except.mapError]

theorem readRate_of_rate {raw : String}
    (h : RateAnswer.record.codec.ofDocument (.ofBytes body) = .ok answer)
    (hrate : answer.data.rates.lookup quote = some raw) :
    readRate base quote body =
      (parseRate raw).map fun price => { base, quote, price, source := id } := by
  simp [readRate, readBody, h, hrate, Except.mapError]

/-- A price comes from nothing but a rate above zero for the currency. -/
theorem readRate_eq_ok_iff {rate : Rate} :
    readRate base quote body = .ok rate ↔ ∃ answer raw price,
      RateAnswer.record.codec.ofDocument (.ofBytes body) = .ok answer ∧
      answer.data.rates.lookup quote = some raw ∧
      Decimal.read (Text.trim raw.toList) = .ok price ∧ 0 < price.toRat ∧
      rate = { base, quote, price, source := id } := by
  constructor
  · intro h
    cases hdecode : RateAnswer.record.codec.ofDocument (.ofBytes body) with
    | error err => rw [readRate_of_undecodable hdecode] at h; cases h
    | ok answer =>
      cases hraw : answer.data.rates.lookup quote with
      | none => rw [readRate_of_no_rate hdecode hraw] at h; cases h
      | some raw =>
        rw [readRate_of_rate hdecode hraw, map_eq_ok_iff] at h
        obtain ⟨price, hprice, rfl⟩ := h
        obtain ⟨hread, hpos⟩ := parseRate_eq_ok_iff.mp hprice
        exact ⟨answer, raw, price, rfl, hraw, hread, hpos, rfl⟩
  · rintro ⟨answer, raw, price, hdecode, hraw, hread, hpos, rfl⟩
    rw [readRate_of_rate hdecode hraw, parseRate_of_pos hread hpos]
    rfl

/-- What is wrong with a body is that it cannot be read as a price. -/
theorem kind_of_readRate {cause : RateError} (h : readRate base quote body = .error cause) :
    Failure.kindOfRateError cause = .decode := by
  cases hdecode : RateAnswer.record.codec.ofDocument (.ofBytes body) with
  | error err =>
    rw [readRate_of_undecodable hdecode, Except.error.injEq] at h
    rw [← h]
    rfl
  | ok answer =>
    cases hraw : answer.data.rates.lookup quote with
    | none =>
      rw [readRate_of_no_rate hdecode hraw, Except.error.injEq] at h
      rw [← h]
      rfl
    | some raw =>
      rw [readRate_of_rate hdecode hraw] at h
      cases hparse : parseRate raw with
      | ok price => rw [hparse] at h; cases h
      | error cause' =>
        rw [hparse] at h
        obtain rfl : cause' = cause := Except.error.inj h
        obtain ⟨message, rfl⟩ := exists_message_of_parseRate hparse
        rfl

/-- No body at all is no answer of the oracle. -/
theorem readRate_nil : readRate base quote [] = .error unreadable := rfl

end ExchangeRates

end LedgerLookup
