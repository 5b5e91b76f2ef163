import LedgerLookup.Proofs.Client.Accounts
import LedgerLookup.Proofs.Client.Wire
import LedgerLookup.Proofs.Http.Exchange
import LedgerLookup.Proofs.Text.Lossy

/-!
# Rehearsals

A client over a network against the same client over a script.  The two ask for the same URLs, one
after another, whatever they are answered.  What a call answers over the network is what it answers
over the script, as soon as the script has in its place what becomes of the request on the wire: the
reply with its body read lossily, or a failure of the same kind.  An answer that redirects is not
that reply, since over the network the redirect is followed; the reply is then the last one.
-/

namespace LedgerLookup

open Http (Network Script ScriptedAnswer Transport WireOutcome)
open Text.Utf8 (ReadsLossily)

/-! ### Transports after some requests -/

namespace Http

/-- A transport after the requests for some URLs, one after another. -/
def afterAll {τ : Type} [Transport τ] (t : τ) (urls : List String) : τ :=
  urls.foldl (fun t url => (Transport.get t url).2) t

theorem afterAll_cons {τ : Type} [Transport τ] (t : τ) (url : String) (rest : List String) :
    afterAll t (url :: rest) = afterAll (Transport.get t url).2 rest := rfl

theorem afterAll_append {τ : Type} [Transport τ] (t : τ) (urls others : List String) :
    afterAll t (urls ++ others) = afterAll (afterAll t urls) others :=
  List.foldl_append

/-- The answer of a script to a request, counted from zero. -/
def Script.answer (s : Script) (k : Nat) : ScriptedAnswer :=
  s.answers.getD k ⟨.ok ⟨404, ""⟩, 0⟩

/-- A script uses up one answer for each request. -/
theorem Script.afterAll_eq (s : Script) (urls : List String) :
    afterAll s urls = ⟨s.answers.drop urls.length, s.asked ++ urls⟩ := by
  induction urls generalizing s with
  | nil => simp [afterAll]
  | cons url rest ih =>
    rw [afterAll_cons, ih]
    simp [Transport.get, List.drop_tail]

theorem Script.get_outcome (s : Script) (url : String) :
    (Transport.get s url).1.outcome = outcomeFor url s.next := rfl

theorem Script.next_afterAll (s : Script) (urls : List String) :
    (afterAll s urls).next = s.answer urls.length := by
  rw [s.afterAll_eq, next, answer, List.headD_eq_head?_getD, List.head?_drop,
    List.getD_eq_getElem?_getD]

namespace Network

theorem get_state (n : Network) (url : String) : (Transport.get n url).2 = (n.send url).2 := rfl

theorem afterAll_cons_of_no_target (n : Network) {url : String} (rest : List String)
    (h : Url.target? url = none) : afterAll n (url :: rest) = afterAll n rest := by
  obtain ⟨bad, hsend⟩ := send_of_no_target (n := n) h
  rw [afterAll_cons, get_state, hsend]

/-- One request goes over a network for each URL that can be sent, redirects aside. -/
theorem sent_afterAll (n : Network) (urls : List String) :
    (afterAll n urls).sent =
      n.sent ++ (urls.filterMap Url.target?).map fun u => "GET " ++ u.withoutFragment.text := by
  induction urls generalizing n with
  | nil => exact (List.append_nil _).symm
  | cons url rest ih =>
    cases htarget : Url.target? url with
    | none => rw [n.afterAll_cons_of_no_target rest htarget, List.filterMap_cons_none htarget, ih]
    | some u =>
      rw [afterAll_cons, get_state, ih, sent_send, htarget, List.filterMap_cons_some htarget,
        List.append_assoc]
      rfl

/-- Where nothing redirects, each of these requests uses up one outcome. -/
theorem afterAll_of_no_redirect (n : Network) (urls : List String)
    (h : ∀ k < (urls.filterMap Url.target?).length, (n.outcome k).redirect? = none) :
    (afterAll n urls).followed = n.followed ∧
      ∀ k, (afterAll n urls).outcome k = n.outcome ((urls.filterMap Url.target?).length + k) := by
  induction urls generalizing n with
  | nil => exact ⟨rfl, fun k => by rw [List.filterMap_nil, List.length_nil, Nat.zero_add]; rfl⟩
  | cons url rest ih =>
    cases htarget : Url.target? url with
    | none =>
      rw [List.filterMap_cons_none htarget] at h ⊢
      rw [n.afterAll_cons_of_no_target rest htarget]
      exact ih n h
    | some u =>
      rw [List.filterMap_cons_some htarget, List.length_cons] at h ⊢
      have hnext : n.next.redirect? = none := n.outcome_zero ▸ h 0 (Nat.succ_pos _)
      have hsend := n.delivers_send htarget
      rw [stops_of_no_redirect hnext] at hsend
      have houtcome : ∀ k, (n.send url).2.outcome k = n.outcome (k + 1) := fun k => by
        rw [hsend.outcome, List.length_nil, Nat.zero_add, Nat.add_comm]
      obtain ⟨hfollowed, hrest⟩ := ih (n.send url).2 fun k hk => by
        rw [houtcome]
        exact h (k + 1) (Nat.succ_lt_succ hk)
      rw [afterAll_cons, get_state]
      refine ⟨?_, fun k => ?_⟩
      · rw [hfollowed, n.followed_send htarget, stops_of_no_redirect hnext, List.map_nil,
          List.append_nil]
      · rw [hrest, houtcome]
        congr 1
        omega

theorem outcomeOf?_afterAll (n : Network) (urls : List String) (url : String)
    (h : ∀ k ≤ (urls.filterMap Url.target?).length, (n.outcome k).redirect? = none) :
    (afterAll n urls).outcomeOf? url =
      (Url.target? url).map fun _ => n.outcome (urls.filterMap Url.target?).length := by
  obtain ⟨-, houtcome⟩ := n.afterAll_of_no_redirect urls fun k hk => h k hk.le
  have hnext : (afterAll n urls).next = n.outcome (urls.filterMap Url.target?).length := by
    rw [← outcome_zero, houtcome, Nat.add_zero]
  rw [outcomeOf?_of_no_redirect (hnext ▸ h _ le_rfl), hnext]

/-- What becomes in the end of a request for `url`, after those for other URLs. -/
structure EndsAs (n : Network) (earlier : List String) (url : String)
    (wire : Option WireOutcome) : Prop where
  unsent : Url.target? url = none → wire = none
  /-- At most ten redirects are followed from stop to stop, and the last outcome decides. -/
  led : (Url.target? url).isSome = true → ∃ stops, Led 10 (afterAll n earlier).outcome stops ∧
    (afterAll n (earlier ++ [url])).followed = (afterAll n earlier).followed ++
      (stops.map fun stop => "GET " ++ stop.withoutFragment.text) ∧
    ∀ last, wire = some last ↔
      (afterAll n earlier).outcome stops.length = last ∧ last.redirect? = none
  /-- As long as nothing redirects, each request that can be sent has one outcome. -/
  direct :
    let place := (earlier.filterMap Url.target?).length
    (∀ k ≤ place, (n.outcome k).redirect? = none) →
      wire = (Url.target? url).map fun _ => n.outcome place
  /-- If moreover every URL can be sent, the outcomes are numbered as the requests are. -/
  numbered : (∀ u ∈ earlier ++ [url], (Url.target? u).isSome = true) →
    (∀ k ≤ earlier.length, (n.outcome k).redirect? = none) → wire = some (n.outcome earlier.length)

theorem endsAs (n : Network) (earlier : List String) (url : String) :
    n.EndsAs earlier url ((afterAll n earlier).outcomeOf? url) where
  unsent := outcomeOf?_of_no_target
  led htarget := by
    obtain ⟨u, htarget⟩ := Option.isSome_iff_exists.mp htarget
    refine ⟨_, led_stops _, ?_, fun last => ?_⟩
    · rw [afterAll_append]
      exact followed_send _ htarget
    · rw [outcomeOf?_of_target htarget, WireOutcome.end?_eq_some_iff]
  direct := n.outcomeOf?_afterAll earlier url
  numbered hall hnone := by
    have hcount : (earlier.filterMap Url.target?).length = earlier.length :=
      List.filterMap_length_eq_length.mpr fun u hu => hall u (List.mem_append_left _ hu)
    obtain ⟨u, htarget⟩ := Option.isSome_iff_exists.mp
      (hall url (List.mem_append_right _ (List.mem_singleton_self url)))
    rw [n.outcomeOf?_afterAll earlier url (hcount ▸ hnone), htarget, hcount, Option.map_some]

end Network

end Http

/-! ### Clients after some actions -/

namespace ClientAction

/-- The supplier of hosts that some actions leave behind. -/
def hostsAfterAll (s : HostSupplier) (actions : List ClientAction) : HostSupplier :=
  actions.foldl hostsAfter s

/-- The URLs that some actions request, one after another. -/
def urls (l : Locator) : HostSupplier → List ClientAction → List String
  | _, [] => []
  | s, action :: rest => (action.url? l s.current).toList ++ urls l (action.hostsAfter s) rest

end ClientAction

namespace Client

/-- The same client over another transport. -/
def withTransport {τ σ : Type} (c : Client τ) (transport : σ) : Client σ :=
  ⟨c.locator, c.hosts, transport⟩

section

variable {τ : Type} [Transport τ]

/-- What a transport answers never counts for what a client asks for next. -/
theorem act_state (c : Client τ) (action : ClientAction) :
    (c.act action).state = ⟨c.locator, action.hostsAfter c.hosts,
      Http.afterAll c.transport (action.url? c.locator c.hosts.current).toList⟩ := by
  cases action with
  | useHosts hosts => rfl
  | endpoint => rfl
  | resolve r =>
    show (c.resolve r).state = ⟨_, c.hosts.readIf r.readsHost,
      Http.afterAll _ (r.url? c.locator c.hosts.current).toList⟩
    cases hw : r.page.window with
    | error e =>
      rw [c.resolve_of_error r hw, r.url?_of_error hw, r.readsHost_of_error hw]
      rfl
    | ok w =>
      rw [c.resolve_of_ok r hw rfl, r.url?_of_ok hw]
      rfl

theorem run_state (c : Client τ) (actions : List ClientAction) :
    (c.run actions).state = ⟨c.locator, ClientAction.hostsAfterAll c.hosts actions,
      Http.afterAll c.transport (ClientAction.urls c.locator c.hosts actions)⟩ := by
  induction actions generalizing c with
  | nil => rfl
  | cons action rest ih =>
    rw [run, ih, c.act_state action, ClientAction.urls, Http.afterAll_append]
    rfl

/-- What a run answers at a place is what its action answers there. -/
theorem run_answer_at (c : Client τ) (before : List ClientAction) (action : ClientAction)
    (after : List ClientAction) :
    (c.run (before ++ action :: after)).answer[before.length]? =
      some ((c.run before).state.act action).answer := by
  have hlength : (c.run before).answer.length = before.length := by
    rw [← c.moments_answer before, List.length_map, ← List.length_map (f := Moment.action),
      c.moments_action before]
  rw [c.run_append, ← hlength, List.getElem?_append_right le_rfl, Nat.sub_self]
  rfl

/-- A lookup for as long as it takes answers by what becomes of its request. -/
theorem act_answer_of_url (c : Client τ) {identifier url : String} {page : Page}
    {endpoint : Option Endpoint}
    (hurl : LookupRequest.url? ⟨identifier, page, .unbounded endpoint⟩ c.locator
      c.hosts.current = some url) :
    (c.act (.resolve ⟨identifier, page, .unbounded endpoint⟩)).answer =
      .resolved (Sent.settle ⟨identifier, url, none⟩
        (Transport.get c.transport url).1.outcome) := by
  cases hw : page.window with
  | error e =>
    rw [LookupRequest.url?_of_error hw] at hurl
    cases hurl
  | ok w =>
    rw [LookupRequest.url?_of_ok hw] at hurl
    have hwritten := (Option.some.inj hurl).symm
    exact congrArg ClientAnswer.resolved (c.answer_of_unbounded identifier endpoint hw hwritten)

/-- Where a lookup stands in a run, what becomes of its request is up to the transport as the
requests before it have left it. -/
theorem run_answer_at_url (c : Client τ) (before : List ClientAction) {identifier url : String}
    {page : Page} {endpoint : Option Endpoint} (after : List ClientAction)
    (hurl : LookupRequest.url? ⟨identifier, page, .unbounded endpoint⟩ c.locator
      (ClientAction.hostsAfterAll c.hosts before).current = some url) :
    let transport := Http.afterAll c.transport (ClientAction.urls c.locator c.hosts before)
    (c.run (before ++ .resolve ⟨identifier, page, .unbounded endpoint⟩ :: after)).answer[
        before.length]? =
      some (.resolved (Sent.settle ⟨identifier, url, none⟩
        (Transport.get transport url).1.outcome)) := by
  have hact : ((c.run before).state.act (.resolve ⟨identifier, page, .unbounded endpoint⟩)).answer =
      .resolved (Sent.settle ⟨identifier, url, none⟩
        (Transport.get (c.run before).state.transport url).1.outcome) := by
    apply act_answer_of_url
    rw [c.run_state]
    exact hurl
  rw [c.run_answer_at, hact, c.run_state]

/-- An action that requests nothing is answered without the transport. -/
theorem act_answer_of_no_url {σ : Type} [Transport σ] {c : Client τ} {d : Client σ}
    (hlocator : d.locator = c.locator) (hhosts : d.hosts = c.hosts) {action : ClientAction}
    (hurl : action.url? c.locator c.hosts.current = none) :
    (d.act action).answer = (c.act action).answer := by
  cases action with
  | useHosts hosts => rfl
  | endpoint =>
    show ClientAnswer.endpoint (d.locator.locate d.hosts.current) = _
    rw [hlocator, hhosts]
    rfl
  | resolve r =>
    cases hw : r.page.window with
    | error e =>
      show ClientAnswer.resolved (d.resolve r).answer = .resolved (c.resolve r).answer
      rw [d.resolve_of_error r hw, c.resolve_of_error r hw]
    | ok w =>
      rw [ClientAction.url?, r.url?_of_ok hw] at hurl
      cases hurl

end

end Client

/-! ### One call -/

/-- What becomes of a request and is a failure to the client, of the given kind: it is not sent or
not followed to an end, there is no answer, or it is cut short in its body. -/
inductive Http.FailsAs : Option WireOutcome → FetchKind → Prop where
  | nowhere : FailsAs none .transport
  | unreachable : FailsAs (some .unreachable) .transport
  | closed : FailsAs (some .closed) .transport
  | silent : FailsAs (some .silent) .timeout
  | cut {status : Nat} {body : List UInt8} {location : Option Url}
      (hbody : Http.allowsBody status = true) :
      FailsAs (some (.answered status body false location)) .transport

namespace Http.Network

variable {n : Network} {url : String}

/-- A whole reply arrives with its body read lossily. -/
theorem get_outcome_of_whole {status : Nat} {body : List UInt8} {location : Option Url}
    {text : String} (hwire : n.outcomeOf? url = some (.answered status body true location))
    (hbody : Http.allowsBody status = true) (htext : ReadsLossily body text.toList) :
    (Transport.get n url).1.outcome = .ok ⟨status, text⟩ := by
  obtain ⟨asked, place, hget⟩ := get_outcome_of_outcome hwire
  have hreceived : receivedBody status body true = some body := by
    simp [receivedBody, hbody]
  have hread : String.ofList (Text.Utf8.decodeLossy body) = text := by
    rw [← htext.eq_decodeLossy, String.ofList_toList]
  rw [hget, outcomeAt, hreceived]
  show Except.ok (Reply.mk status (String.ofList (Text.Utf8.decodeLossy body))) = _
  rw [hread]

/-- A request that fails has the URL that was asked for as its target. -/
theorem get_outcome_of_failsAs {kind : FetchKind} (h : FailsAs (n.outcomeOf? url) kind) :
    ∃ fault, (Transport.get n url).1.outcome =
      .error (.fetch url kind (some (.fault fault))) := by
  cases hwire : n.outcomeOf? url with
  | none =>
    rw [hwire] at h
    cases h
    exact get_outcome_of_no_outcome hwire
  | some wire =>
    obtain ⟨asked, place, hget⟩ := get_outcome_of_outcome hwire
    rw [hwire] at h
    rw [hget]
    cases h with
    | unreachable => exact ⟨.notSent asked, rfl⟩
    | closed => exact ⟨.notSent asked, rfl⟩
    | silent => exact ⟨.timedOut asked, rfl⟩
    | @cut status body location hbody =>
      have hreceived : receivedBody status body false = none := by
        simp [receivedBody, hbody]
      rw [outcomeAt, hreceived]
      exact ⟨.bodyCut place, rfl⟩

end Http.Network

/-- A call over a network, where `wire` becomes of its request, and what the same call answers over
a script that has `scripted` in its place. -/
structure Rehearsed (wire : Option WireOutcome) (scripted : ScriptedAnswer)
    (identifier url : String) (answer rehearsed : Except Failure Resolved) : Prop where
  /-- A whole reply whose status allows a body is settled with that body read lossily, and so it is
  over a script that replies with this text. -/
  whole : ∀ status body location, ∀ text : String,
    wire = some (.answered status body true location) → Http.allowsBody status = true →
    ReadsLossily body text.toList →
    answer = Sent.settle ⟨identifier, url, none⟩ (.ok ⟨status, text⟩) ∧
      (scripted.outcome = .ok ⟨status, text⟩ → rehearsed = answer)
  /-- A failure has the kind and the target of the failure that a script gives, and differs in its
  cause only. -/
  failed : ∀ kind, Http.FailsAs wire kind →
    (∃ fault, answer = .error (.fetch url kind (some (.fault fault)))) ∧
      ∀ cause, scripted.outcome = .error (kind, cause) →
        rehearsed = .error (.fetch url kind (some (.note cause)))

/-- What one request over a network and one of a script come to. -/
theorem rehearsed_settle (n : Network) (s : Script) (identifier url : String) :
    Rehearsed (n.outcomeOf? url) s.next identifier url
      (Sent.settle ⟨identifier, url, none⟩ (Transport.get n url).1.outcome)
      (Sent.settle ⟨identifier, url, none⟩ (Transport.get s url).1.outcome) where
  whole := by
    intro status body location text hwire hbody htext
    rw [Network.get_outcome_of_whole hwire hbody htext]
    refine ⟨rfl, fun hscripted => ?_⟩
    rw [s.get_outcome, Script.outcomeFor, hscripted]
    rfl
  failed := by
    intro kind hfails
    obtain ⟨fault, hfault⟩ := Network.get_outcome_of_failsAs hfails
    refine ⟨⟨fault, by rw [hfault, Sent.settle_error]⟩, fun cause hscripted => ?_⟩
    rw [s.get_outcome, Script.outcomeFor, hscripted]
    rfl

/-! ### A run -/

namespace Client

/-- What holds of a run of a client over a network and of the same run over a script. -/
structure Rehearses (c : Client Network) (script : Script) (actions : List ClientAction) :
    Prop where
  /-- Both ask for the same URLs in the same order.  The script keeps all of them, and those that
  can be sent go over the network, and nothing else as long as no answer redirects. -/
  requests :
    let urls := ClientAction.urls c.locator c.hosts actions
    ((c.withTransport script).run actions).state.transport.asked = script.asked ++ urls ∧
      (c.run actions).state.transport.sent = c.transport.sent ++
        ((urls.filterMap Url.target?).map fun u => "GET " ++ u.withoutFragment.text) ∧
      ((∀ k < (urls.filterMap Url.target?).length, (c.transport.outcome k).redirect? = none) →
        (c.run actions).state.transport.followed = c.transport.followed)
  /-- Both are left at the same service with the same hosts. -/
  kept : ((c.withTransport script).run actions).state.locator = (c.run actions).state.locator ∧
    ((c.withTransport script).run actions).state.hosts = (c.run actions).state.hosts
  /-- At an endpoint over plain HTTP every URL can be sent that is not too long. -/
  sendable : ∀ endpoint authority, Endpoint.IsPlainHttp endpoint authority → ∀ identifier w,
    (Url.target? (hashUrl endpoint identifier w)).isSome = true ↔
      (lookupUrl authority identifier w).text.length ≤ Url.maxRequestLength
  /-- A call for as long as it takes answers over the network as it does over the script, if the
  answer of the script is what becomes of the request in the end. -/
  calls : ∀ before identifier page endpoint after,
    actions = before ++ .resolve ⟨identifier, page, .unbounded endpoint⟩ :: after →
    let host := (ClientAction.hostsAfterAll c.hosts before).current
    let earlier := ClientAction.urls c.locator c.hosts before
    ∀ url, LookupRequest.url? ⟨identifier, page, .unbounded endpoint⟩ c.locator host = some url →
      let wire := (Http.afterAll c.transport earlier).outcomeOf? url
      c.transport.EndsAs earlier url wire ∧
      ∃ answer rehearsed,
        (c.run actions).answer[before.length]? = some (.resolved answer) ∧
        ((c.withTransport script).run actions).answer[before.length]? = some (.resolved rehearsed) ∧
        Rehearsed wire (script.answer earlier.length) identifier url answer rehearsed
  /-- Every action that requests nothing answers the same. -/
  others : ∀ before action after, actions = before ++ action :: after →
    action.url? c.locator (ClientAction.hostsAfterAll c.hosts before).current = none →
    ∃ answer, (c.run actions).answer[before.length]? = some answer ∧
      ((c.withTransport script).run actions).answer[before.length]? = some answer

theorem rehearses (c : Client Network) (script : Script) (actions : List ClientAction) :
    Rehearses c script actions where
  requests := by
    rw [c.run_state, (c.withTransport script).run_state]
    exact ⟨congrArg Script.asked (script.afterAll_eq _), c.transport.sent_afterAll _,
      fun hnone => (c.transport.afterAll_of_no_redirect _ hnone).1⟩
  kept := by
    rw [c.run_state, (c.withTransport script).run_state]
    exact ⟨rfl, rfl⟩
  sendable := by
    intro endpoint authority hplain identifier w
    rw [target?_hashUrl hplain]
    split_ifs with hlength <;> simp [hlength]
  calls := by
    rintro before identifier page endpoint after rfl host earlier url hurl wire
    refine ⟨c.transport.endsAs earlier url, _, _, c.run_answer_at_url before after hurl,
      (c.withTransport script).run_answer_at_url before after hurl, ?_⟩
    rw [← script.next_afterAll earlier]
    exact rehearsed_settle _ _ identifier url
  others := by
    rintro before action after rfl hurl
    have hsame : (((c.withTransport script).run before).state.act action).answer =
        ((c.run before).state.act action).answer := by
      apply act_answer_of_no_url
      · rw [c.run_state, (c.withTransport script).run_state]
        rfl
      · rw [c.run_state, (c.withTransport script).run_state]
        rfl
      · rw [c.run_state]
        exact hurl
    refine ⟨_, c.run_answer_at before action after, ?_⟩
    rw [(c.withTransport script).run_answer_at, hsame]

/-- **A run over a network is what it was over a script**, whatever is done with the client.  Where
the script has the reply that arrives in the end, with its body read lossily, or a failure of the
kind that occurs, the call answers the same; and lossy reading gives any bytes exactly one text,
which for the bytes of a text is that text. -/
theorem run_as_rehearsed (c : Client Network) (script : Script) (actions : List ClientAction) :
    Rehearses c script actions ∧
      (∀ body, ∃! text : String, ReadsLossily body text.toList) ∧
      ∀ text written : String,
        ReadsLossily written.toUTF8.data.toList text.toList ↔ text = written := by
  refine ⟨c.rehearses script actions, ?_, ?_⟩
  · intro body
    exact Text.Utf8.existsUnique_readsLossily body
  · intro text written
    exact Text.Utf8.readsLossily_toUTF8_iff

/-- A client over a network on which the first resource has moved. -/
def movedClient : Client Network :=
  loopbackClient.withTransport (.moved (.answered 200 (Text.Utf8.encode "\x7b\x7d".toList) true none))

set_option maxRecDepth 100000 in
/-- **A redirect is rehearsed otherwise.**  The first answer over the network is of status 302, and
the call resolves to what a second request gives; over a script with the same first answer it
fails. -/
theorem run_of_moved_resource :
    let request : LookupRequest := ⟨"a", {}, .unbounded (some .loopback)⟩
    let script : Script := { answers := [⟨.ok ⟨302, ""⟩, 0⟩] }
    movedClient.transport.next = .answered 302 [] true (some Network.elsewhere) ∧
    (∃ resolved, (movedClient.run [.resolve request]).answer = [.resolved (.ok resolved)]) ∧
    (movedClient.run [.resolve request]).state.transport.followed =
      ["GET http://[::1]/elsewhere"] ∧
    ((movedClient.withTransport script).run [.resolve request]).answer =
      [.resolved (.error (.fetch "http://[::1]:4/explorer/hash/a?offset=0&limit=25" (.status 302)
        (some (.note "HTTP 302: "))))] := by
  intro request script
  have hlabel : (movedClient.resolve request).answer.map Resolved.label = .ok "not_found" := by
    decide +kernel
  obtain ⟨resolved, hresolved, -⟩ := map_eq_ok_iff.mp hlabel
  have hfails : ((movedClient.withTransport script).resolve request).answer.map Resolved.label =
      .error (.fetch "http://[::1]:4/explorer/hash/a?offset=0&limit=25" (.status 302)
        (some (.note "HTTP 302: "))) := by
    decide +kernel
  refine ⟨rfl, ⟨resolved, ?_⟩, by decide +kernel, ?_⟩
  · show [ClientAnswer.resolved (movedClient.resolve request).answer] = _
    rw [hresolved]
  · show [ClientAnswer.resolved ((movedClient.withTransport script).resolve request).answer] = _
    cases hanswer : ((movedClient.withTransport script).resolve request).answer with
    | ok other => rw [hanswer] at hfails; cases hfails
    | error f =>
      rw [hanswer] at hfails
      rw [Except.error.inj hfails]

end Client

end LedgerLookup
