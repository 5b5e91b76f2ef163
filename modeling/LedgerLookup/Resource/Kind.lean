import LedgerLookup.Json.Variant

/-!
# Resource kinds

The kinds of ledger resource that an identifier can name, in the order in which an answer that holds
several of them is read.
-/

namespace LedgerLookup

/-- A kind of ledger resource. -/
inductive ResourceKind where
  | transaction | address | observation | peer | peerNode | externalTxidInfo
deriving DecidableEq, Repr

namespace ResourceKind

/-- The kinds in order of precedence. -/
def precedence : List ResourceKind :=
  [transaction, address, observation, peer, peerNode, externalTxidInfo]

/-- The member of an answer that holds a resource of the kind. -/
def key : ResourceKind → String
  | transaction => "transaction"
  | address => "address"
  | observation => "observation"
  | peer => "peer"
  | peerNode => "peer_node"
  | externalTxidInfo => "external_txid_info"

/-- Kinds as they are written in JSON. -/
def variants : Json.Variants ResourceKind :=
  ⟨precedence.map fun k => (k.key, k)⟩

end ResourceKind

end LedgerLookup
