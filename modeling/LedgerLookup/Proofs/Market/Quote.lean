import LedgerLookup.Market.Query
import LedgerLookup.Proofs.Market.Rates

/-!
# Prices

What a market query over the exchange-rates oracle answers, for every asset and everything that can
become of its one request.  A price is the rate that a whole answer gives, and it is above zero;
everything else is a failure that keeps that of the oracle as its cause.
-/

namespace LedgerLookup.Market

open Http (Network RawReply WireOutcome)

variable {τ : Type}

/-- The answer to a query for a price, given that of the oracle. -/
def priceAnswer (currency : String) (answer : Except RateError Rate) : Except Failure Decimal :=
  (answer.map Rate.price).mapError (.ofRateError (ExchangeRates.id ++ ":" ++ currency))

theorem priceAnswer_ok (currency : String) (rate : Rate) :
    priceAnswer currency (.ok rate) = .ok rate.price := rfl

/-- The failure names the oracle and the asset, and keeps the failure of the oracle as its cause. -/
theorem priceAnswer_error (currency : String) (cause : RateError) :
    priceAnswer currency (.error cause) =
      .error (.fetch ("EXCHANGE_RATES:" ++ currency) (Failure.kindOfRateError cause)
        (some (.rate cause))) := by
  have htarget : ExchangeRates.id ++ ":" = "EXCHANGE_RATES:" := rfl
  rw [← htarget]
  rfl

theorem priceAnswer_eq_ok_iff {currency : String} {answer : Except RateError Rate} {p : Decimal} :
    priceAnswer currency answer = .ok p ↔ ∃ rate, answer = .ok rate ∧ rate.price = p := by
  cases answer with
  | error cause => simp [priceAnswer_error]
  | ok rate => simp [priceAnswer_ok]

theorem exists_cause_of_priceAnswer {currency : String} {answer : Except RateError Rate}
    {f : Failure} (h : priceAnswer currency answer = .error f) :
    ∃ cause, f = .fetch ("EXCHANGE_RATES:" ++ currency) (Failure.kindOfRateError cause)
      (some (.rate cause)) := by
  cases answer with
  | ok rate => cases h
  | error cause =>
    rw [priceAnswer_error, Except.error.injEq] at h
    exact ⟨cause, h.symm⟩

/-- A query for a price asks the oracle once and does nothing else. -/
theorem quotePrice_eq {m : Market τ} {o : ExchangeRates} (h : m.oracle = .exchangeRates o)
    (currency : String) :
    m.quotePrice currency =
      ⟨priceAnswer currency (o.ask currency usd).1, (o.ask currency usd).2.1,
        m.withOracle (.exchangeRates (o.ask currency usd).2.2)⟩ := by
  simp [quotePrice, h, Oracle.ask, Oracle.id, priceAnswer]

variable {m : Market τ} {o : ExchangeRates} {currency : String}

theorem quotePrice_answer (h : m.oracle = .exchangeRates o) :
    (m.quotePrice currency).answer = priceAnswer currency
      (((o.network.send (o.ratesUrl currency)).1.mapError ExchangeRates.ofFault).bind
        (ExchangeRates.readReply currency usd)) := by
  rw [quotePrice_eq h]
  rfl

theorem quotePrice_state (h : m.oracle = .exchangeRates o) :
    (m.quotePrice currency).state = m.withOracle
      (.exchangeRates { o with network := (o.network.send (o.ratesUrl currency)).2 }) := by
  rw [quotePrice_eq h]
  rfl

/-- A query whose URL leads somewhere makes one request there, and one for each redirect that is
followed. -/
theorem quotePrice_sends (h : m.oracle = .exchangeRates o) {u : Url}
    (htarget : Url.target? (o.ratesUrl currency) = some u) :
    ∃ network', (m.quotePrice currency).state =
        m.withOracle (.exchangeRates { o with network := network' }) ∧
      network'.sent = o.network.sent ++ ["GET " ++ u.withoutFragment.text] ∧
      network'.followed = o.network.followed ++
        o.network.stops.map fun stop => "GET " ++ stop.withoutFragment.text := by
  exact ⟨_, quotePrice_state h, (o.network.delivers_send htarget).sent,
    o.network.followed_send htarget⟩

theorem quotePrice_of_no_target (h : m.oracle = .exchangeRates o)
    (htarget : Url.target? (o.ratesUrl currency) = none) :
    (m.quotePrice currency).state = m.withOracle (.exchangeRates o) := by
  obtain ⟨url, hsend⟩ := Network.send_of_no_target (n := o.network) htarget
  rw [quotePrice_state h, hsend]

/-- A query without an outcome on the wire fails, and not for want of an answer in time. -/
theorem quotePrice_of_no_outcome (h : m.oracle = .exchangeRates o)
    (hwire : o.network.outcomeOf? (o.ratesUrl currency) = none) :
    ∃ fault, (m.quotePrice currency).answer = priceAnswer currency (.error (.network fault)) := by
  obtain ⟨fault, hfault, hsend⟩ := Network.send_of_no_outcome hwire
  refine ⟨fault, ?_⟩
  rw [quotePrice_answer h, hsend]
  exact congrArg (fun cause => priceAnswer currency (.error cause))
    (ExchangeRates.ofFault_of_not_timedOut hfault)

section Outcome

variable (h : m.oracle = .exchangeRates o)

include h

/-- The answer to every other query is read from what becomes of its request. -/
theorem quotePrice_of_outcome {wire : WireOutcome}
    (hwire : o.network.outcomeOf? (o.ratesUrl currency) = some wire) :
    ∃ asked place, (m.quotePrice currency).answer = priceAnswer currency
      (((Network.outcomeAt asked place wire).mapError ExchangeRates.ofFault).bind
        (ExchangeRates.readReply currency usd)) := by
  obtain ⟨asked, place, hsend⟩ := Network.send_of_outcome hwire
  refine ⟨asked, place, ?_⟩
  rw [quotePrice_answer h, hsend]

theorem quotePrice_of_silent
    (hwire : o.network.outcomeOf? (o.ratesUrl currency) = some .silent) :
    (m.quotePrice currency).answer =
      priceAnswer currency (.error (.timeout ExchangeRates.id)) := by
  obtain ⟨asked, place, hanswer⟩ := quotePrice_of_outcome h hwire
  exact hanswer

theorem quotePrice_of_unanswered
    (hwire : o.network.outcomeOf? (o.ratesUrl currency) = some .unreachable ∨
      o.network.outcomeOf? (o.ratesUrl currency) = some .closed) :
    ∃ fault, (m.quotePrice currency).answer = priceAnswer currency (.error (.network fault)) := by
  rcases hwire with hwire | hwire
  · obtain ⟨asked, place, hanswer⟩ := quotePrice_of_outcome h hwire
    exact ⟨.notSent asked, hanswer⟩
  · obtain ⟨asked, place, hanswer⟩ := quotePrice_of_outcome h hwire
    exact ⟨.notSent asked, hanswer⟩

end Outcome

section Answered

variable (h : m.oracle = .exchangeRates o) {status : Nat} {body : List UInt8} {complete : Bool}
  {location : Option Url}
  (hwire : o.network.outcomeOf? (o.ratesUrl currency) =
    some (.answered status body complete location))

include h hwire

theorem quotePrice_of_answered :
    ∃ place, (m.quotePrice currency).answer = priceAnswer currency
      (ExchangeRates.readReply currency usd
        ⟨place, status, Network.receivedBody status body complete⟩) := by
  obtain ⟨asked, place, hanswer⟩ := quotePrice_of_outcome h hwire
  exact ⟨place, hanswer⟩

theorem quotePrice_of_rateLimited (hstatus : status = 429) :
    (m.quotePrice currency).answer =
      priceAnswer currency (.error (.rateLimited ExchangeRates.id)) := by
  obtain ⟨place, hanswer⟩ := quotePrice_of_answered h hwire
  rw [hanswer, ExchangeRates.readReply_of_rateLimited hstatus]

theorem quotePrice_of_not_success (hlimit : status ≠ 429)
    (hstatus : ¬ (200 ≤ status ∧ status ≤ 299)) :
    (m.quotePrice currency).answer =
      priceAnswer currency (.error (.refused ExchangeRates.id (some status)
        ("HTTP " ++ Text.decimal status ++ " " ++ Http.reason status))) := by
  have hfail : Http.isSuccess status = false := by
    rw [← Bool.not_eq_true, Http.isSuccess_iff]
    exact hstatus
  obtain ⟨place, hanswer⟩ := quotePrice_of_answered h hwire
  rw [hanswer, ExchangeRates.readReply_of_not_success hlimit hfail]

/-- The body of a successful answer is read if it arrives whole. -/
theorem quotePrice_of_success (hstatus : 200 ≤ status ∧ status ≤ 299) :
    (m.quotePrice currency).answer = priceAnswer currency
      (match Network.receivedBody status body complete with
      | none => .error ExchangeRates.unreadable
      | some bytes => ExchangeRates.readRate currency usd bytes) := by
  obtain ⟨place, hanswer⟩ := quotePrice_of_answered h hwire
  exact hanswer.trans (congrArg (priceAnswer currency)
    (ExchangeRates.readReply_of_success (Http.isSuccess_iff.mpr hstatus)))

end Answered

theorem quotePrice_of_cut (h : m.oracle = .exchangeRates o) {status : Nat} {body : List UInt8}
    {location : Option Url}
    (hwire : o.network.outcomeOf? (o.ratesUrl currency) =
      some (.answered status body false location))
    (hstatus : 200 ≤ status ∧ status ≤ 299) :
    (m.quotePrice currency).answer = priceAnswer currency (.error ExchangeRates.unreadable) := by
  rw [quotePrice_of_success h hwire hstatus]
  cases hbody : Http.allowsBody status with
  | true => simp [Network.receivedBody, hbody]
  | false => simp [Network.receivedBody, hbody, ExchangeRates.readRate_nil]

theorem quotePrice_of_whole (h : m.oracle = .exchangeRates o) {status : Nat} {body : List UInt8}
    {location : Option Url}
    (hwire : o.network.outcomeOf? (o.ratesUrl currency) =
      some (.answered status body true location))
    (hstatus : 200 ≤ status ∧ status ≤ 299) :
    (m.quotePrice currency).answer = priceAnswer currency
      (ExchangeRates.readRate currency usd (if Http.allowsBody status then body else [])) := by
  rw [quotePrice_of_success h hwire hstatus]
  cases hbody : Http.allowsBody status <;> simp [Network.receivedBody, hbody]

/-- A price comes from nothing but a rate above zero in a whole answer that says success. -/
theorem exists_rate_of_quotePrice (h : m.oracle = .exchangeRates o) {p : Decimal}
    (hp : (m.quotePrice currency).answer = .ok p) :
    ∃ status body location answer raw,
      o.network.outcomeOf? (o.ratesUrl currency) = some (.answered status body true location) ∧
      (200 ≤ status ∧ status ≤ 299) ∧
      RateAnswer.record.codec.ofDocument
        (.ofBytes (if Http.allowsBody status then body else [])) = .ok answer ∧
      answer.data.rates.lookup usd = some raw ∧
      Decimal.read (Text.trim raw.toList) = .ok p ∧ 0 < p.toRat := by
  cases hwire : o.network.outcomeOf? (o.ratesUrl currency) with
  | none =>
    obtain ⟨fault, hfault⟩ := quotePrice_of_no_outcome h hwire
    rw [hfault] at hp
    cases hp
  | some wire =>
    cases wire with
    | unreachable =>
      obtain ⟨fault, hfault⟩ := quotePrice_of_unanswered h (.inl hwire)
      rw [hfault] at hp
      cases hp
    | closed =>
      obtain ⟨fault, hfault⟩ := quotePrice_of_unanswered h (.inr hwire)
      rw [hfault] at hp
      cases hp
    | silent => rw [quotePrice_of_silent h hwire] at hp; cases hp
    | answered status body complete location =>
      by_cases hstatus : 200 ≤ status ∧ status ≤ 299
      · cases complete with
        | true =>
          rw [quotePrice_of_whole h hwire hstatus, priceAnswer_eq_ok_iff] at hp
          obtain ⟨rate, hrate, rfl⟩ := hp
          obtain ⟨answer, raw, price, hdecode, hraw, hread, hpos, rfl⟩ :=
            ExchangeRates.readRate_eq_ok_iff.mp hrate
          exact ⟨status, body, location, answer, raw, rfl, hstatus, hdecode, hraw, hread, hpos⟩
        | false => rw [quotePrice_of_cut h hwire hstatus] at hp; cases hp
      · by_cases hlimit : status = 429
        · rw [quotePrice_of_rateLimited h hwire hlimit] at hp; cases hp
        · rw [quotePrice_of_not_success h hwire hlimit hstatus] at hp; cases hp

/-- **What a query for a price answers, by the stage that decides it.**  It makes one request for
the rates of the asset, and none if their URL leads nowhere.  Redirects are followed, ten of them at
most; without any, what becomes of this one request decides, and otherwise what becomes of the last.
What is wrong with the exchange, the status or the body of the answer, in this order, decides the
kind of the failure; then come the rate in it and the number that the rate stands for.  Every
failure names the oracle and the asset and keeps the failure of the oracle as its cause.  A price is
the rate of a whole answer and is above zero. -/
theorem quotePrice_by_stage (m : Market τ) (base : String) (network : Network)
    (currency : String) :
    let oracle := fun network => Oracle.exchangeRates (.ofBase base network)
    let step := (m.withOracle (oracle network)).quotePrice currency
    let text := Text.withoutTrailingSlashes base ++ "/exchange-rates?currency=" ++
      Text.Percent.encoded currency
    let wire := network.outcomeOf? text
    let fails := fun kind cause =>
      step.answer = .error (.fetch ("EXCHANGE_RATES:" ++ currency) kind (some (.rate cause)))
    (Url.target? text = none → step.state = m.withOracle (oracle network) ∧ wire = none) ∧
    (∀ u, Url.target? text = some u →
      (∃ network', step.state = m.withOracle (oracle network') ∧
        network'.sent = network.sent ++ ["GET " ++ u.withoutFragment.text] ∧
        network'.followed = network.followed ++
          network.stops.map fun stop => "GET " ++ stop.withoutFragment.text) ∧
      Http.Led 10 network.outcome network.stops ∧ network.stops.length ≤ 10 ∧
      (∀ last, wire = some last ↔
        network.outcome network.stops.length = last ∧ last.redirect? = none) ∧
      (network.next.redirect? = none → network.stops = [] ∧ wire = some network.next)) ∧
    (wire = none ∨ wire = some .unreachable ∨ wire = some .closed →
      ∃ fault, fails .transport (.network fault)) ∧
    (wire = some .silent → fails .timeout (.timeout "EXCHANGE_RATES")) ∧
    (∀ status body complete location, wire = some (.answered status body complete location) →
      (status = 429 → fails (.status 429) (.rateLimited "EXCHANGE_RATES")) ∧
      (status ≠ 429 → ¬ (200 ≤ status ∧ status ≤ 299) →
        ∃ message, fails (.status status) (.refused "EXCHANGE_RATES" (some status) message)) ∧
      (200 ≤ status ∧ status ≤ 299 → complete = false →
        ∃ message, fails .decode (.refused "EXCHANGE_RATES" none message)) ∧
      (200 ≤ status ∧ status ≤ 299 → complete = true →
        let read := RateAnswer.record.codec.ofDocument
          (.ofBytes (if Http.allowsBody status then body else []))
        (∀ err, read = .error err →
          ∃ message, fails .decode (.refused "EXCHANGE_RATES" none message)) ∧
        ∀ answer, read = .ok answer →
          (answer.data.rates.lookup usd = none →
            fails .decode (.currencyNotFound (currency ++ "/" ++ usd))) ∧
          ∀ raw, answer.data.rates.lookup usd = some raw →
            let rate := Decimal.read (Text.trim raw.toList)
            (∀ err, rate = .error err → ∃ message, fails .decode (.invalid message)) ∧
            (∀ p, rate = .ok p → p.toRat ≤ 0 → ∃ message, fails .decode (.invalid message)) ∧
            ∀ p, rate = .ok p → 0 < p.toRat → step.answer = .ok p)) ∧
    (∀ f, step.answer = .error f → ∃ cause, f =
      .fetch ("EXCHANGE_RATES:" ++ currency) (Failure.kindOfRateError cause) (some (.rate cause))) ∧
    (∀ p, step.answer = .ok p → 0 < p.toRat ∧ ∃ status body location answer raw,
      wire = some (.answered status body true location) ∧ (200 ≤ status ∧ status ≤ 299) ∧
      RateAnswer.record.codec.ofDocument
        (.ofBytes (if Http.allowsBody status then body else [])) = .ok answer ∧
      answer.data.rates.lookup usd = some raw ∧ Decimal.read (Text.trim raw.toList) = .ok p) := by
  intro oracle step text wire fails
  have h : (m.withOracle (oracle network)).oracle = .exchangeRates (.ofBase base network) := rfl
  have hfails : ∀ cause, step.answer = priceAnswer currency (.error cause) →
      fails (Failure.kindOfRateError cause) cause := fun cause hanswer =>
    hanswer.trans (priceAnswer_error currency cause)
  refine ⟨fun htarget => ⟨quotePrice_of_no_target h htarget,
      Network.outcomeOf?_of_no_target htarget⟩,
    fun u htarget => ⟨quotePrice_sends h htarget, network.led_stops, network.led_stops.length_le,
      fun last => ?_, fun hnone => ⟨Network.stops_of_no_redirect hnone, ?_⟩⟩, fun hwire => ?_,
    fun hwire => hfails _ (quotePrice_of_silent h hwire), fun status body complete location hwire =>
      ⟨fun hlimit => ?_, fun hlimit hstatus => ?_, ?_, ?_⟩, fun f hf => ?_, fun p hp => ?_⟩
  · show network.outcomeOf? text = some last ↔ _
    rw [Network.outcomeOf?_of_target htarget, Http.WireOutcome.end?_eq_some_iff]
  · show network.outcomeOf? text = _
    rw [Network.outcomeOf?_of_no_redirect hnone, htarget, Option.map_some]
  · rcases hwire with hwire | hwire
    · obtain ⟨fault, hfault⟩ := quotePrice_of_no_outcome h hwire
      exact ⟨fault, hfails _ hfault⟩
    · obtain ⟨fault, hfault⟩ := quotePrice_of_unanswered h hwire
      exact ⟨fault, hfails _ hfault⟩
  · exact hfails _ (quotePrice_of_rateLimited h hwire hlimit)
  · exact ⟨_, hfails _ (quotePrice_of_not_success h hwire hlimit hstatus)⟩
  · rintro hstatus rfl
    exact ⟨_, hfails _ (quotePrice_of_cut h hwire hstatus)⟩
  · rintro hstatus rfl
    have hanswer := quotePrice_of_whole h hwire hstatus
    refine ⟨fun err hdecode => ?_, fun answer hdecode => ⟨fun hrate => ?_, fun raw hrate =>
      ⟨fun err hread => ?_, fun p hread hpos => ?_, fun p hread hpos => ?_⟩⟩⟩
    · rw [ExchangeRates.readRate_of_undecodable hdecode] at hanswer
      exact ⟨_, hfails _ hanswer⟩
    · rw [ExchangeRates.readRate_of_no_rate hdecode hrate] at hanswer
      exact hfails _ hanswer
    · rw [ExchangeRates.readRate_of_rate hdecode hrate, ExchangeRates.parseRate_of_error hread]
        at hanswer
      exact ⟨_, hfails _ hanswer⟩
    · rw [ExchangeRates.readRate_of_rate hdecode hrate,
        ExchangeRates.parseRate_of_nonpos hread hpos] at hanswer
      exact ⟨_, hfails _ hanswer⟩
    · rw [ExchangeRates.readRate_of_rate hdecode hrate,
        ExchangeRates.parseRate_of_pos hread hpos] at hanswer
      exact hanswer
  · exact exists_cause_of_priceAnswer ((quotePrice_answer h).symm.trans hf)
  · obtain ⟨status, body, location, answer, raw, hwire, hstatus, hdecode, hraw, hread, hpos⟩ :=
      exists_rate_of_quotePrice h hp
    exact ⟨hpos, status, body, location, answer, raw, hwire, hstatus, hdecode, hraw, hread⟩

/-- A network on which the rates have moved to another place. -/
def movedRates : Network :=
  .moved (.answered 200
    (Text.Utf8.encode "\x7b\"data\":\x7b\"rates\":\x7b\"USD\":\"1\"\x7d\x7d\x7d".toList) true none)

set_option maxRecDepth 100000 in
/-- **A redirect is no failure.**  The rates are asked for a second time, where the answer leads
that is no success, and there is a price. -/
theorem quotePrice_of_moved_rates :
    let oracle : ExchangeRates := .ofBase "http://[::1]" movedRates
    let m : Market Network :=
      (Market.ofConfig .standard (.fixed "") {} {}).withOracle (.exchangeRates oracle)
    let step := m.quotePrice "BTC"
    movedRates.next = .answered 302 [] true (some Network.elsewhere) ∧
    (∃ p, step.answer = .ok p) ∧
    ∃ network', step.state = m.withOracle (.exchangeRates { oracle with network := network' }) ∧
      network'.sent = ["GET http://[::1]/exchange-rates?currency=BTC"] ∧
      network'.followed = ["GET http://[::1]/elsewhere"] := by
  intro oracle m step
  have hanswer : step.answer = .ok ⟨false, 1, 0, by decide, by decide⟩ := by decide +kernel
  refine ⟨rfl, ⟨_, hanswer⟩, _, quotePrice_state rfl, ?_, ?_⟩
  · decide +kernel
  · decide +kernel

end LedgerLookup.Market
