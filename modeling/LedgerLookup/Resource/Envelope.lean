import LedgerLookup.Json.Record
import LedgerLookup.Resource.Kind

/-!
# Envelopes

The answer to a lookup is a JSON object with one member for each kind of resource that was found.
A member that is null or missing holds nothing, and members of other names do not count.
Classifying an answer picks the resource of the first kind in order of precedence; an answer
without any resource means that the identifier is unknown, which is not a failure.
-/

namespace LedgerLookup

open Json (Value Members Node Codec)

/-- The resources of an answer. -/
structure Envelope where
  transaction : Option Value := none
  address : Option Value := none
  observation : Option Value := none
  peer : Option Value := none
  peerNode : Option Value := none
  externalTxidInfo : Option Value := none

/-- What an identifier was found to name. -/
inductive Resolved where
  | found (kind : ResourceKind) (payload : Value)
  | notFound (identifier : String)

namespace Envelope

/-- The resource of a kind. -/
def payload? (e : Envelope) : ResourceKind → Option Value
  | .transaction => e.transaction
  | .address => e.address
  | .observation => e.observation
  | .peer => e.peer
  | .peerNode => e.peerNode
  | .externalTxidInfo => e.externalTxidInfo

/-- The resource that the members of an object hold for a kind. -/
def held? (members : Members) (kind : ResourceKind) : Option Value :=
  (Members.get? kind.key members).filter (!·.isNull)

/-- The envelope of the members of an object. -/
def ofMembers (members : Members) : Envelope where
  transaction := held? members .transaction
  address := held? members .address
  observation := held? members .observation
  peer := held? members .peer
  peerNode := held? members .peerNode
  externalTxidInfo := held? members .externalTxidInfo

/-- The kinds that have a resource, in order of precedence. -/
def populated (e : Envelope) : List ResourceKind :=
  ResourceKind.precedence.filter fun k => (e.payload? k).isSome

/-- The members of the object that an envelope is written as. -/
def members (e : Envelope) : Members :=
  ResourceKind.precedence.filterMap fun k => (e.payload? k).map (k.key, ·)

/-- Envelopes as they are written in JSON: as objects only. -/
def codec : Codec Envelope where
  ofNode
    | .object nodes => (Node.memberValues nodes []).map ofMembers
    | n => do Json.refuse .map (← n.form)
  ofValue
    | .object members => .ok (ofMembers members)
    | v => Json.refuse .map v.form
  toValue e := .object e.members

/-- The resource of the first kind that has one. -/
def classify (e : Envelope) (identifier : String) : Resolved :=
  match ResourceKind.precedence.findSome? fun k => (e.payload? k).map (k, ·) with
  | some (kind, payload) => .found kind payload
  | none => .notFound identifier

end Envelope

namespace Resolved

/-- The kind of the resource that was found. -/
def kind? : Resolved → Option ResourceKind
  | found kind _ => some kind
  | notFound _ => none

/-- The resource that was found. -/
def payload? : Resolved → Option Value
  | found _ payload => some payload
  | notFound _ => none

/-- The outcome in one word. -/
def label : Resolved → String
  | found kind _ => kind.key
  | notFound _ => "not_found"

/-- The resource that was found, read with a codec. -/
def decode? {α : Type} (r : Resolved) (codec : Codec α) : Option (Except Json.Error α) :=
  r.payload?.map codec.ofValue

end Resolved

end LedgerLookup
