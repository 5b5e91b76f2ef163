import LedgerLookup.Json.Record

/-!
# Transactions

Transactions as the service describes them: in lists, and in detail with signers, inputs, outputs
and the swap they carry.  A field that is not written keeps its empty value.
-/

namespace LedgerLookup

/-- A transaction as it is listed. -/
structure TransactionSummary where
  hash : String := ""
  sender : String := ""
  recipient : String := ""
  amount : Binary64 := .zero
  bytes : Word .i64 := .zero
  timestamp : Word .i64 := .zero
  firstAmount : Binary64 := .zero
  isTest : Bool := false
  fee : Word .i64 := .zero
  incoming : Option Bool := none
  currency : Option String := none
  numSigners : Option (Word .i64) := none
deriving BEq

/-- The record of `TransactionSummary`. -/
def TransactionSummary.record : Json.Record TransactionSummary where
  name := "BriefTransaction"
  empty := {}
  fields := [
    .filled "hash" .string (·.hash) ({ · with hash := · }),
    .filled "from" .string (·.sender) ({ · with sender := · }),
    .filled "to" .string (·.recipient) ({ · with recipient := · }),
    .filled "amount" .double (·.amount) ({ · with amount := · }),
    .filled "bytes" (.word .i64) (·.bytes) ({ · with bytes := · }),
    .filled "timestamp" (.word .i64) (·.timestamp) ({ · with timestamp := · }),
    .filled "first_amount" .double (·.firstAmount) ({ · with firstAmount := · }),
    .filled "is_test" .bool (·.isTest) ({ · with isTest := · }),
    .filled "fee" (.word .i64) (·.fee) ({ · with fee := · }),
    .filled "incoming" (.option .bool) (·.incoming) ({ · with incoming := · }),
    .filled "currency" (.option .string) (·.currency) ({ · with currency := · }),
    .filled "num_signers" (.option (.word .i64)) (·.numSigners) ({ · with numSigners := · })]

/-- A node that signed a transaction, with the observation it signed by. -/
structure NodeSignature where
  signature : String := ""
  nodeId : String := ""
  nodeName : String := ""
  signedPendingTime : Option (Word .i64) := none
  signedFinalizedTime : Option (Word .i64) := none
  observationHash : String := ""
  observationType : String := ""
  observationTimestamp : Word .i64 := .zero
  validationConfidenceScore : Binary64 := .zero
deriving BEq

/-- The record of `NodeSignature`. -/
def NodeSignature.record : Json.Record NodeSignature where
  name := "NodeSignerDetailed"
  empty := {}
  fields := [
    .filled "signature" .string (·.signature) ({ · with signature := · }),
    .filled "node_id" .string (·.nodeId) ({ · with nodeId := · }),
    .filled "node_name" .string (·.nodeName) ({ · with nodeName := · }),
    .filled "signed_pending_time" (.option (.word .i64))
      (·.signedPendingTime) ({ · with signedPendingTime := · }),
    .filled "signed_finalized_time" (.option (.word .i64))
      (·.signedFinalizedTime) ({ · with signedFinalizedTime := · }),
    .filled "observation_hash" .string (·.observationHash) ({ · with observationHash := · }),
    .filled "observation_type" .string (·.observationType) ({ · with observationType := · }),
    .filled "observation_timestamp" (.word .i64)
      (·.observationTimestamp) ({ · with observationTimestamp := · }),
    .filled "validation_confidence_score" .double
      (·.validationConfidenceScore) ({ · with validationConfidenceScore := · })]

/-- A peer whose nodes signed a transaction, and the trust put in it. -/
structure PeerSignature where
  peerId : String := ""
  nodes : List NodeSignature := []
  trust : Binary64 := .zero
deriving BEq

/-- The record of `PeerSignature`. -/
def PeerSignature.record : Json.Record PeerSignature where
  name := "PeerSignerDetailed"
  empty := {}
  fields := [
    .filled "peer_id" .string (·.peerId) ({ · with peerId := · }),
    .filled "nodes" (.list NodeSignature.record.codec) (·.nodes) ({ · with nodes := · }),
    .filled "trust" .double (·.trust) ({ · with trust := · })]

/-- An input of a transaction. -/
structure TransactionInput where
  transactionHash : String := ""
  outputIndex : Word .i64 := .zero
  address : String := ""
  inputAmount : Option Binary64 := none
deriving BEq

/-- The record of `TransactionInput`. -/
def TransactionInput.record : Json.Record TransactionInput where
  name := "DetailedInput"
  empty := {}
  fields := [
    .filled "transaction_hash" .string (·.transactionHash) ({ · with transactionHash := · }),
    .filled "output_index" (.word .i64) (·.outputIndex) ({ · with outputIndex := · }),
    .filled "address" .string (·.address) ({ · with address := · }),
    .filled "input_amount" (.option .double) (·.inputAmount) ({ · with inputAmount := · })]

/-- An output of a transaction. -/
structure TransactionOutput where
  outputIndex : Word .i32 := .zero
  address : String := ""
  available : Bool := false
  amount : Binary64 := .zero
  isSwap : Bool := false
  isLiquidity : Bool := false
deriving BEq

/-- The record of `TransactionOutput`. -/
def TransactionOutput.record : Json.Record TransactionOutput where
  name := "DetailedOutput"
  empty := {}
  fields := [
    .filled "output_index" (.word .i32) (·.outputIndex) ({ · with outputIndex := · }),
    .filled "address" .string (·.address) ({ · with address := · }),
    .filled "available" .bool (·.available) ({ · with available := · }),
    .filled "amount" .double (·.amount) ({ · with amount := · }),
    .filled "is_swap" .bool (·.isSwap) ({ · with isSwap := · }),
    .filled "is_liquidity" .bool (·.isLiquidity) ({ · with isLiquidity := · })]

/-- The swap leg that a transaction carries.  Amounts are decimal texts as they are served. -/
structure SwapLeg where
  partyAddress : String := ""
  swapDestinationAddress : String := ""
  inputCurrency : String := ""
  outputCurrency : String := ""
  swapInputAmount : String := ""
  swapOutputAmount : Option String := none
  swapFee : Option Binary64 := none
  swapInputAmountUsd : String := ""
  swapOutputAmountUsd : Option String := none
  swapStatus : String := ""
  isRequest : Bool := false
  isFulfillment : Bool := false
  requestTxHash : Option String := none
  fulfillmentTxHash : Option String := none
  exchangeRate : Option String := none
deriving BEq

/-- The record of `SwapLeg`. -/
def SwapLeg.record : Json.Record SwapLeg where
  name := "TransactionSwapInfo"
  empty := {}
  fields := [
    .filled "party_address" .string (·.partyAddress) ({ · with partyAddress := · }),
    .filled "swap_destination_address" .string
      (·.swapDestinationAddress) ({ · with swapDestinationAddress := · }),
    .filled "input_currency" .string (·.inputCurrency) ({ · with inputCurrency := · }),
    .filled "output_currency" .string (·.outputCurrency) ({ · with outputCurrency := · }),
    .filled "swap_input_amount" .string (·.swapInputAmount) ({ · with swapInputAmount := · }),
    .filled "swap_output_amount" (.option .string)
      (·.swapOutputAmount) ({ · with swapOutputAmount := · }),
    .filled "swap_fee" (.option .double) (·.swapFee) ({ · with swapFee := · }),
    .filled "swap_input_amount_usd" .string
      (·.swapInputAmountUsd) ({ · with swapInputAmountUsd := · }),
    .filled "swap_output_amount_usd" (.option .string)
      (·.swapOutputAmountUsd) ({ · with swapOutputAmountUsd := · }),
    .filled "swap_status" .string (·.swapStatus) ({ · with swapStatus := · }),
    .filled "is_request" .bool (·.isRequest) ({ · with isRequest := · }),
    .filled "is_fulfillment" .bool (·.isFulfillment) ({ · with isFulfillment := · }),
    .filled "request_tx_hash" (.option .string) (·.requestTxHash) ({ · with requestTxHash := · }),
    .filled "fulfillment_tx_hash" (.option .string)
      (·.fulfillmentTxHash) ({ · with fulfillmentTxHash := · }),
    .filled "exchange_rate" (.option .string) (·.exchangeRate) ({ · with exchangeRate := · })]

/-- A transaction with its signers, inputs and outputs. -/
structure Transaction where
  info : TransactionSummary := {}
  confirmationScore : Binary64 := .zero
  acceptanceScore : Binary64 := .zero
  message : String := ""
  numPendingSigners : Word .i64 := .zero
  numAcceptedSigners : Word .i64 := .zero
  accepted : Bool := false
  signers : List PeerSignature := []
  inputs : List TransactionInput := []
  outputs : List TransactionOutput := []
  rejectionReason : Option Json.Value := none
  signableHash : String := ""
  remainderAmount : Binary64 := .zero
  swapInfo : Option SwapLeg := none
deriving BEq

/-- The record of `Transaction`. -/
def Transaction.record : Json.Record Transaction where
  name := "DetailedTransaction"
  empty := {}
  fields := [
    .filled "info" TransactionSummary.record.codec (·.info) ({ · with info := · }),
    .filled "confirmation_score" .double (·.confirmationScore) ({ · with confirmationScore := · }),
    .filled "acceptance_score" .double (·.acceptanceScore) ({ · with acceptanceScore := · }),
    .filled "message" .string (·.message) ({ · with message := · }),
    .filled "num_pending_signers" (.word .i64)
      (·.numPendingSigners) ({ · with numPendingSigners := · }),
    .filled "num_accepted_signers" (.word .i64)
      (·.numAcceptedSigners) ({ · with numAcceptedSigners := · }),
    .filled "accepted" .bool (·.accepted) ({ · with accepted := · }),
    .filled "signers" (.list PeerSignature.record.codec) (·.signers) ({ · with signers := · }),
    .filled "inputs" (.list TransactionInput.record.codec) (·.inputs) ({ · with inputs := · }),
    .filled "outputs" (.list TransactionOutput.record.codec) (·.outputs) ({ · with outputs := · }),
    .filled "rejection_reason" (.option .any) (·.rejectionReason) ({ · with rejectionReason := · }),
    .filled "signable_hash" .string (·.signableHash) ({ · with signableHash := · }),
    .filled "remainder_amount" .double (·.remainderAmount) ({ · with remainderAmount := · }),
    .filled "swap_info" (.option SwapLeg.record.codec)
      (·.swapInfo) ({ · with swapInfo := · })]

end LedgerLookup
