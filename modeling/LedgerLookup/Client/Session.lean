import LedgerLookup.Client.Lookup

/-!
# Sessions

Runs of a client: actions one after another, and lookups that are under way at the same time.
Lookups that are made together are started in order; each is over when its reply comes or when it
gives up, whichever is first, and what is logged at the end of each stands in the order of these
moments.
-/

namespace LedgerLookup

open Http (Transport)

/-- Something that is done with a client. -/
inductive ClientAction where
  | useHosts (hosts : HostSupplier)
  | endpoint
  | resolve (request : LookupRequest)

/-- What an action answers. -/
inductive ClientAnswer where
  | done
  | endpoint (e : Endpoint)
  | resolved (answer : Except Failure Resolved)

/-- Lookups that have been started together: the answers of those that are over, in the order of the
starts, and the lines logged so far, with the lookups that are not over and their places. -/
structure Together (τ : Type) where
  client : Client τ
  started : List (Except Failure Pending) := []
  log : List LogLine := []

namespace Together

variable {τ : Type} [Transport τ]

/-- Starts one more lookup.  A reply that takes no time ends the lookup before the next one
starts. -/
def start (t : Together τ) (request : LookupRequest) : Together τ :=
  let step := t.client.start request
  let ended := match step.answer with
    | .ok pending => if pending.delay = 0 then pending.log else []
    | .error _ => []
  ⟨step.state, t.started ++ [step.answer], t.log ++ step.log ++ ended⟩

/-- The lookups whose replies take time, in the order in which they are over. -/
def waiting (t : Together τ) : List Pending :=
  (t.started.filterMap fun
    | .ok pending => if pending.delay = 0 then none else some pending
    | .error _ => none).mergeSort fun a b => a.moment ≤ b.moment

/-- The answers in the order of the starts. -/
def answers (t : Together τ) : List (Except Failure Resolved) :=
  t.started.map fun started => started.bind Pending.answer

end Together

namespace Client

variable {τ : Type} [Transport τ]

/-- Makes lookups that are under way at the same time. -/
def resolveTogether (c : Client τ) (requests : List LookupRequest) :
    Step (Client τ) (List (Except Failure Resolved)) :=
  let t := requests.foldl Together.start { client := c }
  ⟨t.answers, t.log ++ t.waiting.flatMap Pending.log, t.client⟩

/-- Does one thing with a client. -/
def act (c : Client τ) : ClientAction → Step (Client τ) ClientAnswer
  | .useHosts hosts => ⟨.done, [], c.withHosts hosts⟩
  | .endpoint =>
    let step := c.endpoint
    ⟨.endpoint step.answer, step.log, step.state⟩
  | .resolve request =>
    let step := c.resolve request
    ⟨.resolved step.answer, step.log, step.state⟩

/-- Does several things with a client, one after another. -/
def run (c : Client τ) : List ClientAction → Step (Client τ) (List ClientAnswer)
  | [] => ⟨[], [], c⟩
  | action :: rest =>
    let first := c.act action
    let others := run first.state rest
    ⟨first.answer :: others.answer, first.log ++ others.log, others.state⟩

end Client

end LedgerLookup
