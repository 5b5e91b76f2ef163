import LedgerLookup.Json.Record

/-!
# Peers

Peers, their nodes, the observations these publish and the trust between peers.  A field that is
not written keeps its empty value.
-/

namespace LedgerLookup

/-- What an observation says about one observed hash. -/
structure ObservationEntry where
  observedHash : String := ""
  observedHashType : String := ""
  validationType : String := ""
  state : String := ""
  validationConfidence : Binary64 := .zero
  time : Word .i64 := .zero
  metadataHash : String := ""
deriving BEq

/-- The record of `ObservationEntry`. -/
def ObservationEntry.record : Json.Record ObservationEntry where
  name := "DetailedObservationMetadata"
  empty := {}
  fields := [
    .filled "observed_hash" .string (·.observedHash) ({ · with observedHash := · }),
    .filled "observed_hash_type" .string (·.observedHashType) ({ · with observedHashType := · }),
    .filled "validation_type" .string (·.validationType) ({ · with validationType := · }),
    .filled "state" .string (·.state) ({ · with state := · }),
    .filled "validation_confidence" .double
      (·.validationConfidence) ({ · with validationConfidence := · }),
    .filled "time" (.word .i64) (·.time) ({ · with time := · }),
    .filled "metadata_hash" .string (·.metadataHash) ({ · with metadataHash := · })]

/-- An observation that a peer published. -/
structure Observation where
  merkleRoot : String := ""
  observations : List ObservationEntry := []
  publicKey : String := ""
  signature : String := ""
  time : Word .i64 := .zero
  hash : String := ""
  signableHash : String := ""
  salt : Word .i64 := .zero
  height : Word .i64 := .zero
  parentHash : String := ""
  peerId : String := ""
deriving BEq

/-- The record of `Observation`. -/
def Observation.record : Json.Record Observation where
  name := "DetailedObservation"
  empty := {}
  fields := [
    .filled "merkle_root" .string (·.merkleRoot) ({ · with merkleRoot := · }),
    .filled "observations" (.list ObservationEntry.record.codec)
      (·.observations) ({ · with observations := · }),
    .filled "public_key" .string (·.publicKey) ({ · with publicKey := · }),
    .filled "signature" .string (·.signature) ({ · with signature := · }),
    .filled "time" (.word .i64) (·.time) ({ · with time := · }),
    .filled "hash" .string (·.hash) ({ · with hash := · }),
    .filled "signable_hash" .string (·.signableHash) ({ · with signableHash := · }),
    .filled "salt" (.word .i64) (·.salt) ({ · with salt := · }),
    .filled "height" (.word .i64) (·.height) ({ · with height := · }),
    .filled "parent_hash" .string (·.parentHash) ({ · with parentHash := · }),
    .filled "peer_id" .string (·.peerId) ({ · with peerId := · })]

/-- The trust that a peer puts in another. -/
structure TrustRating where
  peerId : String := ""
  trust : Binary64 := .zero
deriving BEq

/-- The record of `TrustRating`. -/
def TrustRating.record : Json.Record TrustRating where
  name := "DetailedTrust"
  empty := {}
  fields := [
    .filled "peer_id" .string (·.peerId) ({ · with peerId := · }),
    .filled "trust" .double (·.trust) ({ · with trust := · })]

/-- A node of a peer. -/
structure PeerNode where
  externalAddress : String := ""
  publicKey : String := ""
  nodeType : String := ""
  executableChecksum : String := ""
  commitHash : String := ""
  nextExecutableChecksum : String := ""
  nextUpgradeTime : Option (Word .i64) := none
  utxoDistance : Binary64 := .zero
  portOffset : Word .i64 := .zero
  nodeName : String := ""
  peerId : String := ""
  natRestricted : Bool := false
  recentObservations : List Observation := []
deriving BEq

/-- The record of `PeerNode`. -/
def PeerNode.record : Json.Record PeerNode where
  name := "DetailedPeerNode"
  empty := {}
  fields := [
    .filled "external_address" .string (·.externalAddress) ({ · with externalAddress := · }),
    .filled "public_key" .string (·.publicKey) ({ · with publicKey := · }),
    .filled "node_type" .string (·.nodeType) ({ · with nodeType := · }),
    .filled "executable_checksum" .string
      (·.executableChecksum) ({ · with executableChecksum := · }),
    .filled "commit_hash" .string (·.commitHash) ({ · with commitHash := · }),
    .filled "next_executable_checksum" .string
      (·.nextExecutableChecksum) ({ · with nextExecutableChecksum := · }),
    .filled "next_upgrade_time" (.option (.word .i64))
      (·.nextUpgradeTime) ({ · with nextUpgradeTime := · }),
    .filled "utxo_distance" .double (·.utxoDistance) ({ · with utxoDistance := · }),
    .filled "port_offset" (.word .i64) (·.portOffset) ({ · with portOffset := · }),
    .filled "node_name" .string (·.nodeName) ({ · with nodeName := · }),
    .filled "peer_id" .string (·.peerId) ({ · with peerId := · }),
    .filled "nat_restricted" .bool (·.natRestricted) ({ · with natRestricted := · }),
    .filled "recent_observations" (.list Observation.record.codec)
      (·.recentObservations) ({ · with recentObservations := · })]

/-- A peer with its nodes and the trust it extends. -/
structure Peer where
  peerId : String := ""
  nodes : List PeerNode := []
  trust : List TrustRating := []
deriving BEq

/-- The record of `Peer`. -/
def Peer.record : Json.Record Peer where
  name := "DetailedPeer"
  empty := {}
  fields := [
    .filled "peer_id" .string (·.peerId) ({ · with peerId := · }),
    .filled "nodes" (.list PeerNode.record.codec) (·.nodes) ({ · with nodes := · }),
    .filled "trust" (.list TrustRating.record.codec) (·.trust) ({ · with trust := · })]

end LedgerLookup
