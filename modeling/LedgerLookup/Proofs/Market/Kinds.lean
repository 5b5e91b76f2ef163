import LedgerLookup.Proofs.Http.Exchange
import LedgerLookup.Proofs.Market.Quote

/-!
# Failures of the two services

The explorer client and the exchange-rates oracle send their requests in the same way, and each
classifies what becomes of them for itself.  They agree on everything but an answer whose body is
cut short: the client reads the body before it looks at the status and finds that no complete answer
came, whereas the oracle looks at the status first and then finds a body that cannot be read.
-/

namespace LedgerLookup.Market

open Http (Network WireOutcome Transport)

variable {τ : Type} {m : Market τ} {o : ExchangeRates} {currency : String}

@[simp] theorem priceAnswer_failsWith_iff {cause : RateError} {kind : FetchKind} :
    FailsWith (priceAnswer currency (.error cause)) kind ↔
      Failure.kindOfRateError cause = kind := by
  rw [priceAnswer_error, failsWith_fetch_iff]

/-- A body can only fail to be read. -/
theorem not_failsWith_of_readRate {base quote : String} {body : List UInt8} {kind : FetchKind}
    (hkind : kind ≠ .decode) :
    ¬ FailsWith (priceAnswer currency (ExchangeRates.readRate base quote body)) kind := by
  cases hread : ExchangeRates.readRate base quote body with
  | ok rate => simp [priceAnswer_ok]
  | error cause => simp [ExchangeRates.kind_of_readRate hread, hkind.symm]

/-- How a request over a network fails for a query: by the status before anything else. -/
theorem quotePrice_failsWith_iff (h : m.oracle = .exchangeRates o) {kind : FetchKind}
    (hkind : kind ≠ .decode) :
    FailsWith (m.quotePrice currency).answer kind ↔
      Http.kindBeforeBody? (o.network.outcomeOf? (o.ratesUrl currency)) = some kind := by
  cases hwire : o.network.outcomeOf? (o.ratesUrl currency) with
  | none =>
    obtain ⟨fault, hfault⟩ := quotePrice_of_no_outcome h hwire
    simp [hfault, Http.kindBeforeBody?, Failure.kindOfRateError]
  | some wire =>
    cases wire with
    | answered status body complete location =>
      by_cases hstatus : 200 ≤ status ∧ status ≤ 299
      · have hnone : Http.kindBeforeBody? (some (.answered status body complete location)) =
            none := by
          simp [Http.kindBeforeBody?, Http.isSuccess_iff.mpr hstatus]
        rw [hnone]
        cases complete with
        | true =>
          rw [quotePrice_of_whole h hwire hstatus]
          simp [not_failsWith_of_readRate hkind]
        | false =>
          rw [quotePrice_of_cut h hwire hstatus]
          simp [ExchangeRates.unreadable, Failure.kindOfRateError, hkind.symm]
      · have hsome : Http.kindBeforeBody? (some (.answered status body complete location)) =
            some (.status status) := by
          simp [Http.kindBeforeBody?, Http.isSuccess_iff, hstatus]
        rw [hsome]
        by_cases hlimit : status = 429
        · rw [quotePrice_of_rateLimited h hwire hlimit, hlimit]
          simp [Failure.kindOfRateError]
        · rw [quotePrice_of_not_success h hwire hlimit hstatus]
          simp [Failure.kindOfRateError]
    | silent =>
      rw [quotePrice_of_silent h hwire]
      simp [Http.kindBeforeBody?, Failure.kindOfRateError]
    | unreachable =>
      obtain ⟨fault, hfault⟩ := quotePrice_of_unanswered h (.inl hwire)
      simp [hfault, Http.kindBeforeBody?, Failure.kindOfRateError]
    | closed =>
      obtain ⟨fault, hfault⟩ := quotePrice_of_unanswered h (.inr hwire)
      simp [hfault, Http.kindBeforeBody?, Failure.kindOfRateError]

/-- **The two services classify the same outcome alike, except for a body that is cut short.**
Where the explorer client finds no complete answer, no answer in time, or a status that is no
success, a query for a price that meets the same outcome fails with the same kind and the same
advice exactly when it has not met a body that ends before the length that it announces. -/
theorem quotePrice_kind_eq_iff {α : Type} (codec : Json.Codec α) (hm : m.oracle = .exchangeRates o)
    {n : Network} {url : String}
    (hsame : n.outcomeOf? url = o.network.outcomeOf? (o.ratesUrl currency)) {f : Failure}
    {kind : FetchKind} (hkind : kind ≠ .decode)
    (hf : ((Transport.get n url).1.outcome.bind fun r => r.decode codec url) = .error f)
    (hfkind : f.fetchKind? = some kind) :
    (∃ f', (m.quotePrice currency).answer = .error f' ∧ f'.fetchKind? = some kind ∧
      f'.retry = f.retry) ↔
    ∀ status body location, n.outcomeOf? url = some (.answered status body false location) →
      Http.allowsBody status = false := by
  have hclient := (fetch_failsWith_iff codec n url hkind).mp ⟨f, hf, hfkind⟩
  have horacle : FailsWith (m.quotePrice currency).answer kind ↔ _ :=
    quotePrice_failsWith_iff hm hkind
  rw [← hsame] at horacle
  have hfails : (∃ f', (m.quotePrice currency).answer = .error f' ∧ f'.fetchKind? = some kind ∧
      f'.retry = f.retry) ↔ FailsWith (m.quotePrice currency).answer kind := by
    constructor
    · rintro ⟨f', hf', hkind', -⟩
      exact ⟨f', hf', hkind'⟩
    · rintro ⟨f', hf', hkind'⟩
      exact ⟨f', hf', hkind', Failure.retry_congr hkind' hfkind⟩
  rw [hfails, horacle]
  cases hcut : Http.isCut (n.outcomeOf? url) with
  | false =>
    rw [hcut, if_neg (by simp)] at hclient
    refine ⟨fun _ status body location hbody => ?_, fun _ => hclient⟩
    by_contra hallows
    rw [Http.isCut_iff.mpr ⟨status, body, location, hbody, by simpa using hallows⟩] at hcut
    cases hcut
  | true =>
    rw [hcut, if_pos rfl] at hclient
    obtain ⟨status, body, location, hbody, hallows⟩ := Http.isCut_iff.mp hcut
    refine ⟨fun hbefore => ?_, fun hwhole => ?_⟩
    · rw [← hclient, hbody, Http.kindBeforeBody?] at hbefore
      split_ifs at hbefore
      cases hbefore
    · rw [hwhole status body location hbody] at hallows
      cases hallows

/-- A market query over an oracle at a host that is an address, whose requests meet an outcome. -/
def meeting (outcome : WireOutcome) : Market Network :=
  .ofConfig { Config.standard with oracleUrl := "http://[::1]" } (.fixed "") { later := outcome }
    { later := outcome }

set_option maxRecDepth 100000 in
theorem quotePrice_kind_of_unavailable :
    ∃ f, ((meeting (.answered 503 [] true none)).quotePrice "BTC").answer = .error f ∧
      f.fetchKind? = some (.status 503) ∧ f.retry = .withBackoff := by
  let n : Network := { later := .answered 503 [] true none }
  have hmet : n.outcomeOf? "http://[::1]/" = some (.answered 503 [] true none) := by decide +kernel
  have hsame : n.outcomeOf? "http://[::1]/" =
      n.outcomeOf? (ExchangeRates.ratesUrl (.ofBase "http://[::1]" n) "BTC") := by decide +kernel
  have hf : ((Transport.get n "http://[::1]/").1.outcome.bind fun r =>
      r.decode Json.Codec.string "http://[::1]/") =
        .error (.fetch "http://[::1]/" (.status 503) (some (.note "HTTP 503: "))) := by
    decide +kernel
  refine (quotePrice_kind_eq_iff (m := meeting (.answered 503 [] true none)) Json.Codec.string rfl
    hsame (by decide) hf rfl).mpr fun status body location hcut => ?_
  rw [hmet] at hcut
  cases hcut

set_option maxRecDepth 100000 in
theorem quotePrice_kind_of_cut_body :
    ((Transport.get (meeting (.answered 200 [] false none)).transport
        "http://[::1]/").1.outcome.bind fun r => r.decode Json.Codec.string "http://[::1]/") =
        .error (.fetch "http://[::1]/" .transport (some (.fault (.bodyCut "http://[::1]/")))) ∧
    ((meeting (.answered 200 [] false none)).quotePrice "BTC").answer =
      .error (.fetch "EXCHANGE_RATES:BTC" .decode (some (.rate ExchangeRates.unreadable))) := by
  decide +kernel

end LedgerLookup.Market
