import LedgerLookup.Resource.Transaction

/-!
# External transactions

Transactions on external chains that a party address took part in.  A field that is not written
keeps its empty value.
-/

namespace LedgerLookup

/-- What happened to a party address on an external chain. -/
structure PartyEvent where
  eventType : String := ""
  extendedType : String := ""
  otherAddress : String := ""
  network : String := ""
  amount : Binary64 := .zero
  txHash : String := ""
  incoming : String := ""
  time : Word .i64 := .zero
  formattedTime : String := ""
  otherTxHash : String := ""
deriving BEq

/-- The record of `PartyEvent`. -/
def PartyEvent.record : Json.Record PartyEvent where
  name := "DetailedPartyEvent"
  empty := {}
  fields := [
    .filled "event_type" .string (·.eventType) ({ · with eventType := · }),
    .filled "extended_type" .string (·.extendedType) ({ · with extendedType := · }),
    .filled "other_address" .string (·.otherAddress) ({ · with otherAddress := · }),
    .filled "network" .string (·.network) ({ · with network := · }),
    .filled "amount" .double (·.amount) ({ · with amount := · }),
    .filled "tx_hash" .string (·.txHash) ({ · with txHash := · }),
    .filled "incoming" .string (·.incoming) ({ · with incoming := · }),
    .filled "time" (.word .i64) (·.time) ({ · with time := · }),
    .filled "formatted_time" .string (·.formattedTime) ({ · with formattedTime := · }),
    .filled "other_tx_hash" .string (·.otherTxHash) ({ · with otherTxHash := · })]

/-- A transaction on an external chain that a party address took part in. -/
structure ExternalTransaction where
  externalExplorerLink : String := ""
  partyAddress : String := ""
  event : PartyEvent := {}
  swapInfo : Option SwapLeg := none
deriving BEq

/-- The record of `ExternalTransaction`. -/
def ExternalTransaction.record : Json.Record ExternalTransaction where
  name := "ExternalTxidInfo"
  empty := {}
  fields := [
    .filled "external_explorer_link" .string
      (·.externalExplorerLink) ({ · with externalExplorerLink := · }),
    .filled "party_address" .string (·.partyAddress) ({ · with partyAddress := · }),
    .filled "event" PartyEvent.record.codec (·.event) ({ · with event := · }),
    .filled "swap_info" (.option SwapLeg.record.codec)
      (·.swapInfo) ({ · with swapInfo := · })]

end LedgerLookup
