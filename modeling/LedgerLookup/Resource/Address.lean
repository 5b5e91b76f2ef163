import LedgerLookup.Resource.Transaction

/-!
# Addresses

Addresses with their balance, their unspent outputs and their transactions.  A field that is not
written keeps its empty value.
-/

namespace LedgerLookup

/-- An unspent output as it is listed. -/
structure UnspentOutput where
  transactionHash : String := ""
  outputIndex : Word .i64 := .zero
  amount : Binary64 := .zero
  time : Word .i64 := .zero
deriving BEq

/-- The record of `UnspentOutput`. -/
def UnspentOutput.record : Json.Record UnspentOutput where
  name := "BriefUtxoEntry"
  empty := {}
  fields := [
    .filled "transaction_hash" .string (·.transactionHash) ({ · with transactionHash := · }),
    .filled "output_index" (.word .i64) (·.outputIndex) ({ · with outputIndex := · }),
    .filled "amount" .double (·.amount) ({ · with amount := · }),
    .filled "time" (.word .i64) (·.time) ({ · with time := · })]

/-- An address with its balance and its transactions. -/
structure Address where
  address : String := ""
  balance : Binary64 := .zero
  totalUtxos : Word .i64 := .zero
  recentTransactions : List TransactionSummary := []
  utxos : List UnspentOutput := []
  incomingTransactions : List TransactionSummary := []
  outgoingTransactions : List TransactionSummary := []
  incomingCount : Word .i64 := .zero
  outgoingCount : Word .i64 := .zero
  totalCount : Word .i64 := .zero
deriving BEq

/-- The record of `Address`. -/
def Address.record : Json.Record Address where
  name := "DetailedAddress"
  empty := {}
  fields := [
    .filled "address" .string (·.address) ({ · with address := · }),
    .filled "balance" .double (·.balance) ({ · with balance := · }),
    .filled "total_utxos" (.word .i64) (·.totalUtxos) ({ · with totalUtxos := · }),
    .filled "recent_transactions" (.list TransactionSummary.record.codec)
      (·.recentTransactions) ({ · with recentTransactions := · }),
    .filled "utxos" (.list UnspentOutput.record.codec) (·.utxos) ({ · with utxos := · }),
    .filled "incoming_transactions" (.list TransactionSummary.record.codec)
      (·.incomingTransactions) ({ · with incomingTransactions := · }),
    .filled "outgoing_transactions" (.list TransactionSummary.record.codec)
      (·.outgoingTransactions) ({ · with outgoingTransactions := · }),
    .filled "incoming_count" (.word .i64) (·.incomingCount) ({ · with incomingCount := · }),
    .filled "outgoing_count" (.word .i64) (·.outgoingCount) ({ · with outgoingCount := · }),
    .filled "total_count" (.word .i64) (·.totalCount) ({ · with totalCount := · })]

end LedgerLookup
