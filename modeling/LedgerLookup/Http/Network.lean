import LedgerLookup.Http.Reply
import LedgerLookup.Text.Utf8
import LedgerLookup.Url.Request

/-!
# Networks

What happens on the wire, as data: a network is the sequence of what becomes of the requests sent
over it, in the order in which they are sent.  A text that is no usable URL is refused before
anything is sent.  An answer that redirects is not handed back but followed, by a request to where
it leads, up to ten times.
-/

namespace LedgerLookup.Http

/-- What becomes of a request. -/
inductive WireOutcome where
  /-- No connection comes about, so that the request does not arrive. -/
  | unreachable
  /-- The connection is closed without an answer. -/
  | closed
  /-- No answer within the time that the sender waits. -/
  | silent
  /-- An answer, whose body may end before the length that it announces.  Its location is the URL
  that its `Location` header stands for at the place that was asked, if it has such a header; how
  that is found from the text of the header is left open. -/
  | answered (status : Nat) (body : List UInt8) (complete : Bool) (location : Option Url)
deriving DecidableEq

/-- The statuses of redirects. -/
def redirectStatuses : List Nat := [301, 302, 303, 307, 308]

/-- Where an answer redirects to: its location, if its status is that of a redirect and a request
can be written for this URL. -/
def WireOutcome.redirect? : WireOutcome → Option Url
  | .answered status _ _ location =>
    if redirectStatuses.contains status then location.filter Url.isWritable else none
  | _ => none

/-- The most redirects of one request that are followed. -/
def maxRedirects : Nat := 10

/-- A request that was sent, and what became of it. -/
structure Passage where
  request : String
  outcome : WireOutcome
  /-- Whether it is not the request that was asked for, but one to follow a redirect. -/
  redirected : Bool
deriving DecidableEq

/-- A network: what becomes of the next requests, what becomes of every request after these, and the
requests sent so far. -/
structure Network where
  outcomes : List WireOutcome := []
  later : WireOutcome := .unreachable
  history : List Passage := []
deriving DecidableEq

/-- Whether an answer of a status can have a body.  Interim answers have none, nor do answers that
say that there is no content or that it has not changed. -/
def allowsBody (status : Nat) : Bool :=
  200 ≤ status && status != 204 && status != 304

/-- An answer as it arrives: its status, the bytes of its body, and the URL that gave it.  A body
that was cut short has no bytes to give. -/
structure RawReply where
  url : String
  status : Nat
  body : Option (List UInt8)
deriving DecidableEq

namespace Network

/-- What becomes of the next request. -/
def next (n : Network) : WireOutcome :=
  n.outcomes.headD n.later

/-- The network after a request to `url`. -/
def record (n : Network) (redirected : Bool) (url : String) : Network :=
  { n with
    outcomes := n.outcomes.tail
    history := n.history ++ [⟨"GET " ++ url, n.next, redirected⟩] }

/-- The requests that were sent, those that follow redirects aside. -/
def sent (n : Network) : List String :=
  (n.history.filter (!·.redirected)).map (·.request)

/-- The requests that were sent to follow redirects. -/
def followed (n : Network) : List String :=
  (n.history.filter (·.redirected)).map (·.request)

/-- The requests that arrived somewhere. -/
def arrived (n : Network) : List String :=
  (n.history.filter (·.outcome != .unreachable)).map (·.request)

/-- The bytes of the body of an answer that announces `body`. -/
def receivedBody (status : Nat) (body : List UInt8) (complete : Bool) : Option (List UInt8) :=
  if !allowsBody status then some []
  else if complete then some body
  else none

/-- An outcome as a reply or a fault, where `asked` was asked for and `url` gives the answer. -/
def outcomeAt (asked url : String) : WireOutcome → Except Fault RawReply
  | .unreachable | .closed => .error (.notSent asked)
  | .silent => .error (.timedOut asked)
  | .answered status body complete _ => .ok ⟨url, status, receivedBody status body complete⟩

/-- Sends a request to a URL in its normal form, where `asked` was asked for, and follows redirects
as long as any are left.  The answer of a redirect is dropped with its body unread. -/
def sendTo (n : Network) (asked : String) (left : Nat) (redirected : Bool) (url : Url) :
    Except Fault RawReply × Network :=
  let passed := n.record redirected url.withoutFragment.text
  match n.next.redirect? with
  | none => (outcomeAt asked url.text n.next, passed)
  | some location =>
    match left with
    | 0 => (.error (.redirectedTooOften url.text), passed)
    | left + 1 =>
      if location.isWeb then passed.sendTo asked left true location
      else (.error (.unusableUrl (some location.text)), passed)

/-- Sends a request to the URL that a text is. -/
def send (n : Network) (text : String) : Except Fault RawReply × Network :=
  match (Url.parse? text).map Url.withoutUser with
  | none => (.error (.unusableUrl none), n)
  | some url =>
    if url.isUsable then n.sendTo url.text maxRedirects false url
    else (.error (.unusableUrl (some url.text)), n)

end Network

end LedgerLookup.Http
