import LedgerLookup.Resource.Address
import LedgerLookup.Resource.External
import LedgerLookup.Resource.Peer

/-!
# Views

The structures that the payload of a resource can be read as, by name.
-/

namespace LedgerLookup

/-- A structure that a payload can be read as. -/
inductive View where
  | transactionSummary | nodeSignature | peerSignature | transactionInput | transactionOutput
  | swapLeg | transaction | unspentOutput | address | observationEntry | observation | trustRating
  | peerNode | peer | partyEvent | externalTransaction
deriving DecidableEq, Repr

namespace View

/-- The type of the values of a view. -/
@[reducible] def Carrier : View → Type
  | transactionSummary => TransactionSummary
  | nodeSignature => NodeSignature
  | peerSignature => PeerSignature
  | transactionInput => TransactionInput
  | transactionOutput => TransactionOutput
  | swapLeg => SwapLeg
  | transaction => Transaction
  | unspentOutput => UnspentOutput
  | address => Address
  | observationEntry => ObservationEntry
  | observation => Observation
  | trustRating => TrustRating
  | peerNode => PeerNode
  | peer => Peer
  | partyEvent => PartyEvent
  | externalTransaction => ExternalTransaction

/-- The record of a view. -/
def record : (v : View) → Json.Record v.Carrier
  | transactionSummary => TransactionSummary.record
  | nodeSignature => NodeSignature.record
  | peerSignature => PeerSignature.record
  | transactionInput => TransactionInput.record
  | transactionOutput => TransactionOutput.record
  | swapLeg => SwapLeg.record
  | transaction => Transaction.record
  | unspentOutput => UnspentOutput.record
  | address => Address.record
  | observationEntry => ObservationEntry.record
  | observation => Observation.record
  | trustRating => TrustRating.record
  | peerNode => PeerNode.record
  | peer => Peer.record
  | partyEvent => PartyEvent.record
  | externalTransaction => ExternalTransaction.record

/-- The views. -/
def all : List View :=
  [transactionSummary, nodeSignature, peerSignature, transactionInput, transactionOutput, swapLeg,
    transaction, unspentOutput, address, observationEntry, observation, trustRating, peerNode, peer,
    partyEvent, externalTransaction]

/-- The view of a name. -/
def named? (name : String) : Option View :=
  all.find? fun v => v.record.name == name

/-- Whether a value of a view has the empty value in every field, the two zeros being the same. -/
def isEmpty : (v : View) → v.Carrier → Bool
  | transactionSummary, a => a == {}
  | nodeSignature, a => a == {}
  | peerSignature, a => a == {}
  | transactionInput, a => a == {}
  | transactionOutput, a => a == {}
  | swapLeg, a => a == {}
  | transaction, a => a == {}
  | unspentOutput, a => a == {}
  | address, a => a == {}
  | observationEntry, a => a == {}
  | observation, a => a == {}
  | trustRating, a => a == {}
  | peerNode, a => a == {}
  | peer, a => a == {}
  | partyEvent, a => a == {}
  | externalTransaction, a => a == {}

end View

end LedgerLookup
