import LedgerLookup.Http.Transport
import Mathlib.Tactic.Common

/-!
# What goes over a network

A text either leads somewhere, and then exactly one request goes there, or it does not, and then
nothing is sent at all.  The answer to this request may redirect, and so may that of every request
which follows a redirect; what becomes of the last one decides, unless it redirects as well.
-/

namespace LedgerLookup

/-- The URL that a request for a text is sent to, if there is one. -/
def Url.target? (text : String) : Option Url :=
  ((Url.parse? text).map Url.withoutUser).filter Url.isUsable

/-- Where there is no user, none is taken out. -/
theorem Url.Authority.withoutUser_of_anonymous {authority : Url.Authority}
    (h : authority.user = [] ∧ authority.password = none) : authority.withoutUser = authority := by
  have hdecode : Text.Percent.decode? [] = some [] := rfl
  simp [Url.Authority.withoutUser, Url.Authority.hasReadableUser, h, hdecode]

theorem Http.isSuccess_iff {status : Nat} :
    Http.isSuccess status = true ↔ 200 ≤ status ∧ status ≤ 299 := by
  simp [Http.isSuccess]
  omega

namespace Http

/-! ### Redirects -/

/-- A request that meets these outcomes one after another is led by its redirects from stop to stop,
where at most so many redirects are followed. -/
inductive Led : Nat → (Nat → WireOutcome) → List Url → Prop where
  /-- The answer redirects nowhere, or its redirect is one too many or leaves the web. -/
  | stay {most : Nat} {outcomes : Nat → WireOutcome}
      (h : ∀ url, (outcomes 0).redirect? = some url → most = 0 ∨ url.isWeb = false) :
      Led most outcomes []
  /-- The answer redirects to a stop, and the request to this stop is led on. -/
  | follow {most : Nat} {outcomes : Nat → WireOutcome} {url : Url} {stops : List Url}
      (h : (outcomes 0).redirect? = some url) (hweb : url.isWeb = true)
      (rest : Led most (fun k => outcomes (k + 1)) stops) : Led (most + 1) outcomes (url :: stops)

/-- Where such a request is led. -/
def stopsOf : Nat → (Nat → WireOutcome) → List Url
  | 0, _ => []
  | most + 1, outcomes =>
    match (outcomes 0).redirect? with
    | none => []
    | some url => if url.isWeb then url :: stopsOf most fun k => outcomes (k + 1) else []

theorem led_stopsOf (most : Nat) (outcomes : Nat → WireOutcome) :
    Led most outcomes (stopsOf most outcomes) := by
  induction most generalizing outcomes with
  | zero => exact .stay fun _ _ => .inl rfl
  | succ most ih =>
    rw [stopsOf]
    cases hfirst : (outcomes 0).redirect? with
    | none => exact .stay fun url hurl => by rw [hfirst] at hurl; cases hurl
    | some url =>
      show Led (most + 1) outcomes (if url.isWeb then _ else _)
      by_cases hweb : url.isWeb = true
      · rw [if_pos hweb]
        exact .follow hfirst hweb (ih _)
      · rw [if_neg hweb]
        refine .stay fun other hother => .inr ?_
        obtain rfl : url = other := Option.some.inj (hfirst.symm.trans hother)
        simpa using hweb

theorem Led.length_le {most : Nat} {outcomes : Nat → WireOutcome} {stops : List Url}
    (h : Led most outcomes stops) : stops.length ≤ most := by
  induction h with
  | stay h => exact Nat.zero_le _
  | follow h hweb rest ih => exact Nat.succ_le_succ ih

/-- Without a redirect a request stays where it is. -/
theorem Led.eq_nil {most : Nat} {outcomes : Nat → WireOutcome} {stops : List Url}
    (h : Led most outcomes stops) (hnone : (outcomes 0).redirect? = none) : stops = [] := by
  cases h with
  | stay h => rfl
  | follow h hweb rest =>
    rw [hnone] at h
    cases h

/-- What becomes of a request whose last outcome this is: that outcome, unless it redirects. -/
def WireOutcome.end? (last : WireOutcome) : Option WireOutcome :=
  if last.redirect? = none then some last else none

theorem WireOutcome.end?_of_no_redirect {last : WireOutcome} (h : last.redirect? = none) :
    last.end? = some last :=
  if_pos h

theorem WireOutcome.end?_eq_some_iff {last wire : WireOutcome} :
    last.end? = some wire ↔ last = wire ∧ wire.redirect? = none := by
  unfold end?
  split_ifs with h
  · constructor
    · rintro ⟨⟩
      exact ⟨rfl, h⟩
    · rintro ⟨rfl, -⟩
      rfl
  · constructor
    · rintro ⟨⟩
    · rintro ⟨rfl, hnone⟩
      exact absurd hnone h

theorem Fault.fetchKind_of_not_timedOut {fault : Fault} (h : ∀ place, fault ≠ .timedOut place) :
    fault.fetchKind = .transport := by
  cases fault with
  | timedOut place => exact absurd rfl (h place)
  | _ => rfl

namespace Network

variable {n : Network} {text : String} {u : Url}

/-- What becomes of a request over a network, counted from zero. -/
def outcome (n : Network) (k : Nat) : WireOutcome :=
  n.outcomes.getD k n.later

theorem outcome_zero (n : Network) : n.outcome 0 = n.next := by
  rw [outcome, next, List.headD_eq_head?_getD, List.getD_eq_getElem?_getD,
    List.head?_eq_getElem?]

theorem outcome_record (n : Network) (redirected : Bool) (url : String) (k : Nat) :
    (n.record redirected url).outcome k = n.outcome (k + 1) := by
  simp [outcome, record, List.getD_eq_getElem?_getD]

/-- Where the next request is led. -/
def stops (n : Network) : List Url :=
  stopsOf maxRedirects n.outcome

theorem led_stops (n : Network) : Led maxRedirects n.outcome n.stops :=
  led_stopsOf maxRedirects n.outcome

theorem stops_of_no_redirect (h : n.next.redirect? = none) : n.stops = [] :=
  n.led_stops.eq_nil (n.outcome_zero ▸ h)

/-- What becomes in the end of a request for a text.  There is nothing where no request is sent, or
where the last redirect is not followed. -/
def outcomeOf? (n : Network) (text : String) : Option WireOutcome :=
  (Url.target? text).bind fun _ => (n.outcome n.stops.length).end?

theorem outcomeOf?_of_target (h : Url.target? text = some u) :
    n.outcomeOf? text = (n.outcome n.stops.length).end? := by
  rw [outcomeOf?, h, Option.bind_some]

theorem outcomeOf?_of_no_target (h : Url.target? text = none) : n.outcomeOf? text = none := by
  rw [outcomeOf?, h, Option.bind_none]

theorem outcomeOf?_of_no_redirect (h : n.next.redirect? = none) (text : String) :
    n.outcomeOf? text = (Url.target? text).map fun _ => n.next := by
  rw [outcomeOf?, stops_of_no_redirect h, List.length_nil, n.outcome_zero,
    WireOutcome.end?_of_no_redirect h, Option.map_eq_bind]
  rfl

/-! ### Single requests -/

/-- The request by which a URL is asked for. -/
def requestFor (url : Url) : String :=
  "GET " ++ url.withoutFragment.text

theorem sent_record (n : Network) (redirected : Bool) (url : String) :
    (n.record redirected url).sent = n.sent ++ if redirected then [] else ["GET " ++ url] := by
  cases redirected <;> simp [sent, record]

theorem followed_record (n : Network) (redirected : Bool) (url : String) :
    (n.record redirected url).followed =
      n.followed ++ if redirected then ["GET " ++ url] else [] := by
  cases redirected <;> simp [followed, record]

variable {asked : String} {left : Nat} {redirected : Bool} {url location : Url} {stops : List Url}

/-- A request that stays where it is.  Its answer is the reply or the fault; a redirect that is not
followed is a fault, and not that of a silence. -/
theorem sendTo_of_stay (asked : String) (redirected : Bool) (url : Url)
    (h : ∀ location, n.next.redirect? = some location → left = 0 ∨ location.isWeb = false) :
    ∃ result, n.sendTo asked left redirected url =
        (result, n.record redirected url.withoutFragment.text) ∧
      (n.next.redirect? = none → ∃ place, result = outcomeAt asked place n.next) ∧
      (n.next.redirect? ≠ none →
        ∃ fault, (∀ place, fault ≠ .timedOut place) ∧ result = .error fault) := by
  rw [sendTo.eq_def]
  cases hnext : n.next.redirect? with
  | none => exact ⟨_, rfl, fun _ => ⟨_, rfl⟩, fun hsome => absurd rfl hsome⟩
  | some location =>
    cases left with
    | zero => exact ⟨_, rfl, nofun, fun _ => ⟨.redirectedTooOften url.text, by simp, rfl⟩⟩
    | succ left =>
      have hweb : ¬ location.isWeb = true := by simpa using h location hnext
      exact ⟨_, if_neg hweb, nofun, fun _ => ⟨.unusableUrl (some location.text), by simp, rfl⟩⟩

/-- A redirect that is followed is one more request. -/
theorem sendTo_of_redirect (h : n.next.redirect? = some location) (hweb : location.isWeb = true) :
    n.sendTo asked (left + 1) redirected url =
      (n.record redirected url.withoutFragment.text).sendTo asked left true location := by
  rw [sendTo.eq_def, h]
  exact if_pos hweb

/-! ### Requests with their redirects -/

/-- What sending a request comes to that is led to the stops. -/
structure Delivers (n : Network) (asked : String) (redirected : Bool) (url : Url)
    (stops : List Url) (sending : Except Fault RawReply × Network) : Prop where
  sent : sending.2.sent = n.sent ++ if redirected then [] else [requestFor url]
  followed : sending.2.followed =
    n.followed ++ (if redirected then [requestFor url] else []) ++ stops.map requestFor
  /-- One outcome is used up for the request and one for every stop. -/
  outcome : ∀ k, sending.2.outcome k = n.outcome (stops.length + 1 + k)
  /-- The last outcome is the reply or the fault, unless it redirects. -/
  answered : (n.outcome stops.length).redirect? = none →
    ∃ place, sending.1 = outcomeAt asked place (n.outcome stops.length)
  broken : (n.outcome stops.length).redirect? ≠ none →
    ∃ fault, (∀ place, fault ≠ .timedOut place) ∧ sending.1 = .error fault

/-- A request that is led nowhere else. -/
theorem delivers_of_stay
    (h : ∀ location, n.next.redirect? = some location → left = 0 ∨ location.isWeb = false) :
    n.Delivers asked redirected url [] (n.sendTo asked left redirected url) := by
  obtain ⟨result, hsend, hanswered, hbroken⟩ := sendTo_of_stay asked redirected url h
  rw [hsend]
  refine ⟨n.sent_record redirected _, ?_, fun k => ?_, ?_, ?_⟩
  · rw [followed_record, List.map_nil, List.append_nil]
    rfl
  · rw [outcome_record, List.length_nil, Nat.zero_add, Nat.add_comm]
  · rwa [List.length_nil, n.outcome_zero]
  · rwa [List.length_nil, n.outcome_zero]

/-- One more request in front: the one whose redirect is followed. -/
theorem Delivers.cons {sending : Except Fault RawReply × Network}
    (h : (n.record redirected url.withoutFragment.text).Delivers asked true location stops
      sending) :
    n.Delivers asked redirected url (location :: stops) sending where
  sent := by
    rw [h.sent, sent_record, if_pos rfl, List.append_nil]
    rfl
  followed := by
    rw [h.followed, followed_record, if_pos rfl, List.map_cons, List.append_assoc,
      List.append_assoc, List.append_assoc]
    rfl
  outcome k := by
    rw [h.outcome, outcome_record, List.length_cons]
    congr 1
    omega
  answered hnone := by
    rw [List.length_cons, ← n.outcome_record redirected url.withoutFragment.text] at hnone ⊢
    exact h.answered hnone
  broken hsome := by
    rw [List.length_cons, ← n.outcome_record redirected url.withoutFragment.text] at hsome
    exact h.broken hsome

/-- **What sending comes to.**  The redirects are followed from stop to stop. -/
theorem delivers_of_led (h : Led left n.outcome stops) :
    n.Delivers asked redirected url stops (n.sendTo asked left redirected url) := by
  generalize houtcomes : n.outcome = outcomes at h
  induction h generalizing n redirected url with
  | stay h =>
    rw [← houtcomes, n.outcome_zero] at h
    exact delivers_of_stay h
  | follow h hweb rest ih =>
    rw [← houtcomes, n.outcome_zero] at h
    rw [sendTo_of_redirect h hweb]
    refine (ih (funext fun k => ?_)).cons
    rw [outcome_record, houtcomes]

/-! ### Texts -/

/-- A text that leads somewhere is sent there, and the network decides what comes of it. -/
theorem delivers_send (n : Network) (h : Url.target? text = some u) :
    n.Delivers u.text false u n.stops (n.send text) := by
  obtain ⟨hurl, husable⟩ := Option.filter_eq_some_iff.mp h
  have hsend : n.send text = n.sendTo u.text maxRedirects false u := by
    simp [send, hurl, husable]
  rw [hsend]
  exact delivers_of_led n.led_stops

/-- A text that leads nowhere is refused, and the network stays as it is. -/
theorem send_of_no_target {n : Network} {text : String} (h : Url.target? text = none) :
    ∃ url, n.send text = (.error (.unusableUrl url), n) := by
  unfold send
  cases hurl : (Url.parse? text).map Url.withoutUser with
  | none => exact ⟨none, rfl⟩
  | some url =>
    have husable : url.isUsable = false := by
      simpa [Url.target?, hurl, Option.filter] using h
    exact ⟨some url.text, by simp [husable]⟩

/-- What is sent is one request to where the text leads, redirects aside. -/
theorem sent_send (n : Network) (text : String) :
    (n.send text).2.sent =
      n.sent ++ ((Url.target? text).map fun u => "GET " ++ u.withoutFragment.text).toList := by
  cases htarget : Url.target? text with
  | some u => exact (n.delivers_send htarget).sent
  | none =>
    obtain ⟨url, hsend⟩ := send_of_no_target (n := n) htarget
    simp [hsend]

theorem followed_send (n : Network) (h : Url.target? text = some u) :
    (n.send text).2.followed =
      n.followed ++ n.stops.map fun stop => "GET " ++ stop.withoutFragment.text := by
  rw [(n.delivers_send h).followed, if_neg (by simp), List.append_nil]
  rfl

/-- What becomes of a request in the end is its reply or its fault. -/
theorem send_of_outcome {wire : WireOutcome} (h : n.outcomeOf? text = some wire) :
    ∃ asked place, (n.send text).1 = outcomeAt asked place wire := by
  obtain ⟨u, htarget, hend⟩ := Option.bind_eq_some_iff.mp h
  obtain ⟨rfl, hnone⟩ := WireOutcome.end?_eq_some_iff.mp hend
  exact ⟨u.text, (n.delivers_send htarget).answered hnone⟩

/-- Without an outcome there is a fault, and not that of a silence. -/
theorem send_of_no_outcome (h : n.outcomeOf? text = none) :
    ∃ fault, (∀ place, fault ≠ .timedOut place) ∧ (n.send text).1 = .error fault := by
  cases htarget : Url.target? text with
  | none =>
    obtain ⟨url, hsend⟩ := send_of_no_target (n := n) htarget
    exact ⟨.unusableUrl url, by simp, congrArg Prod.fst hsend⟩
  | some u =>
    refine (n.delivers_send htarget).broken fun hnone => ?_
    rw [outcomeOf?_of_target htarget, WireOutcome.end?_of_no_redirect hnone] at h
    cases h

theorem get_outcome_of_no_outcome {url : String} (h : n.outcomeOf? url = none) :
    ∃ fault, (Transport.get n url).1.outcome =
      .error (.fetch url .transport (some (.fault fault))) := by
  obtain ⟨fault, hfault, hsend⟩ := send_of_no_outcome h
  exact ⟨fault, by simp [Transport.get, hsend, Except.bind, Except.mapError,
    Fault.fetchKind_of_not_timedOut hfault]⟩

theorem get_outcome_of_outcome {url : String} {wire : WireOutcome}
    (h : n.outcomeOf? url = some wire) :
    ∃ asked place, (Transport.get n url).1.outcome =
      ((outcomeAt asked place wire).bind RawReply.read).mapError
        fun f => .fetch url f.fetchKind (some (.fault f)) := by
  obtain ⟨asked, place, hsend⟩ := send_of_outcome h
  exact ⟨asked, place, by simp [Transport.get, hsend]⟩

/-- The URL `http://[::1]/elsewhere`. -/
def elsewhere : Url where
  scheme := "http".toList
  authority := some { host := "[::1]".toList }
  path := .segments ["elsewhere".toList]
  query := none
  fragment := none

/-- A network whose first answer redirects elsewhere, and on which the same becomes of all other
requests. -/
def moved (wire : WireOutcome) : Network where
  outcomes := [.answered 302 [] true (some elsewhere)]
  later := wire

end Network

end Http

end LedgerLookup
