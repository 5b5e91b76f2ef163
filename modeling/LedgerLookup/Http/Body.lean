import LedgerLookup.Failure
import LedgerLookup.Json.Codec

/-!
# Reading replies

The value that a reply holds.  Only the body of a successful reply is read.
-/

namespace LedgerLookup.Http.Reply

/-- How many characters of a body are shown in a failure. -/
def previewLength : Nat := 200

/-- The status and the start of the body of a reply that is no success. -/
def preview (r : Reply) : String :=
  "HTTP " ++ Text.decimal r.status ++ ": " ++ String.ofList (r.body.toList.take previewLength)

/-- The value in the body of a reply to the request for `url`. -/
def decode {α : Type} (r : Reply) (codec : Json.Codec α) (url : String) : Except Failure α :=
  if r.isSuccess then
    (codec.fromText r.body).mapError fun e => .fetch url .decode (some (.json e))
  else .error (.fetch url (.status r.status) (some (.note r.preview)))

end LedgerLookup.Http.Reply
