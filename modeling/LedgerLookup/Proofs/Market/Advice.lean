import LedgerLookup.Proofs.Market.Rates

/-!
# Retry advice for oracles

What is advised after a failure of an oracle, and what after the failed exchange that it is made
into.  Both tables look at the status of a refusal, and they differ in one: too many requests is
worth a wait only where it is told apart from a refusal.
-/

namespace LedgerLookup

open Http (Network RawReply)

namespace RateError

/-- A refusal with the status that asks to be asked less often. -/
def IsThrottled (e : RateError) : Prop :=
  ∃ provider message, e = .refused provider (some 429) message

end RateError

namespace Failure

variable {e : RateError}

theorem retry_of_isThrottled (target : String) (h : e.IsThrottled) :
    e.retry = .never ∧ (ofRateError target e).retry = .withBackoff := by
  obtain ⟨provider, message, rfl⟩ := h
  exact ⟨rfl, rfl⟩

/-- Every other failure keeps its advice. -/
theorem retry_of_not_isThrottled (target : String) (h : ¬ e.IsThrottled) :
    (ofRateError target e).retry = e.retry := by
  cases e with
  | currencyNotFound pair => rfl
  | rateLimited provider => rfl
  | timeout provider => rfl
  | invalid message => rfl
  | network fault => rfl
  | refused provider status message =>
    cases status with
    | none => rfl
    | some status =>
      have hother : status ≠ 429 := by
        rintro rfl
        exact h ⟨provider, message, rfl⟩
      simp [ofRateError, kindOfRateError, retry, RateError.retry, hother]

end Failure

namespace ExchangeRates

/-- The exchange-rates oracle tells too many requests apart. -/
theorem not_isThrottled_of_readReply {base quote : String} {reply : RawReply} {e : RateError}
    (h : readReply base quote reply = .error e) : ¬ e.IsThrottled := by
  rintro ⟨provider, message, rfl⟩
  by_cases hlimit : reply.status = 429
  · rw [readReply_of_rateLimited hlimit] at h
    cases h
  · cases hsuccess : Http.isSuccess reply.status with
    | false =>
      rw [readReply_of_not_success hlimit hsuccess] at h
      simp only [Except.error.injEq, RateError.refused.injEq, Option.some.injEq] at h
      exact hlimit h.2.1
    | true =>
      rw [readReply_of_success hsuccess] at h
      cases hbody : reply.body with
      | none => rw [hbody] at h; cases h
      | some body =>
        rw [hbody] at h
        cases kind_of_readRate h

theorem not_isThrottled_of_ask {o : ExchangeRates} {base quote : String} {e : RateError}
    (h : (o.ask base quote).1 = .error e) : ¬ e.IsThrottled := by
  unfold ask at h
  dsimp only at h
  cases hsend : (o.network.send (o.ratesUrl base)).1 with
  | ok reply =>
    rw [hsend] at h
    exact not_isThrottled_of_readReply h
  | error fault =>
    rw [hsend] at h
    rintro ⟨provider, message, rfl⟩
    cases fault <;> cases h

end ExchangeRates

namespace Failure

/-- **The advice of an oracle is kept.**  A failure of an oracle becomes a failed exchange with its
target, of which it is the cause, and the advice is the same except after a refusal with status 429:
that alone is no reason to wait for an oracle, and one for a failed exchange.  The exchange-rates
oracle never refuses with that status. -/
theorem retry_ofRateError_eq_iff (target : String) (e : RateError) :
    (∃ kind, ofRateError target e = .fetch target kind (some (.rate e))) ∧
      ((ofRateError target e).retry = e.retry ↔ ¬ e.IsThrottled) ∧
      (e.IsThrottled → e.retry = .never ∧ (ofRateError target e).retry = .withBackoff) ∧
      ∀ (o : ExchangeRates) (base quote : String), (o.ask base quote).1 = .error e →
        (ofRateError target e).retry = e.retry := by
  refine ⟨⟨_, rfl⟩, ⟨fun hsame h => ?_, retry_of_not_isThrottled target⟩,
    retry_of_isThrottled target, fun o base quote h => ?_⟩
  · obtain ⟨hnever, hbackoff⟩ := retry_of_isThrottled target h
    rw [hnever, hbackoff] at hsame
    cases hsame
  · exact retry_of_not_isThrottled target (ExchangeRates.not_isThrottled_of_ask h)

/-- An oracle that reports the status itself. -/
theorem retry_of_refusal_429 :
    RateError.retry (.refused "SCRIPTED" (some 429) "HTTP 429") = .never ∧
      (ofRateError "SCRIPTED:BTC" (.refused "SCRIPTED" (some 429) "HTTP 429")).retry =
        .withBackoff :=
  retry_of_isThrottled "SCRIPTED:BTC" ⟨_, _, rfl⟩

end Failure

end LedgerLookup
