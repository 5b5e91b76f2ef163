import LedgerLookup.Failure
import LedgerLookup.Http.Network
import LedgerLookup.Log

/-!
# Transports

What carries the requests of the explorer client.  A transport answers a request with a reply of
any status or with a failure; its state says what it will answer next.  One transport answers from
a script, after a delay; the other sends over a network.
-/

namespace LedgerLookup.Http

/-- What a transport makes of one request: the reply or failure, the time it takes in
milliseconds, and what it logs. -/
structure Exchange where
  outcome : Except Failure Reply
  delay : Nat := 0
  log : List LogLine := []

/-- A transport with states of type `τ`. -/
class Transport (τ : Type) where
  /-- Answers the request for a URL. -/
  get : τ → String → Exchange × τ

/-- An answer of a script: a reply, or a failure of a kind with a cause. -/
structure ScriptedAnswer where
  outcome : Except (FetchKind × String) Reply
  delay : Nat := 0

/-- A transport that answers from a script, and with an empty reply of status 404 once the script
is used up.  It keeps the URLs that it was asked for. -/
structure Script where
  answers : List ScriptedAnswer := []
  asked : List String := []

namespace Script

/-- The next answer of a script. -/
def next (s : Script) : ScriptedAnswer :=
  s.answers.headD ⟨.ok ⟨404, ""⟩, 0⟩

/-- The outcome of an answer to the request for `url`. -/
def outcomeFor (url : String) (a : ScriptedAnswer) : Except Failure Reply :=
  a.outcome.mapError fun (kind, cause) => .fetch url kind (some (.note cause))

instance : Transport Script where
  get s url :=
    (⟨outcomeFor url s.next, s.next.delay, []⟩,
      { s with answers := s.answers.tail, asked := s.asked ++ [url] })

end Script

/-- The kind of failure that a fault is to the explorer client. -/
def Fault.fetchKind : Fault → FetchKind
  | timedOut _ => .timeout
  | unusableUrl _ | notSent _ | bodyCut _ | redirectedTooOften _ => .transport

/-- A reply as it arrives, with its body as text; bytes that are not UTF-8 are replaced. -/
def RawReply.read (r : RawReply) : Except Fault Reply :=
  match r.body with
  | some bytes => .ok ⟨r.status, String.ofList (Text.Utf8.decodeLossy bytes)⟩
  | none => .error (.bodyCut r.url)

instance : Transport Network where
  get n url :=
    let (result, n) := n.send url
    (⟨(result.bind RawReply.read).mapError fun f => .fetch url f.fetchKind (some (.fault f)), 0,
        [.requested url]⟩, n)

end LedgerLookup.Http
