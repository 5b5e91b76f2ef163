import LedgerLookup.Client.Flight
import LedgerLookup.Client.Session
import LedgerLookup.Environment
import LedgerLookup.Http.Recorder
import LedgerLookup.Market.Query
import LedgerLookup.Resource.View
import LedgerLookup.Proofs.Client.Accounts
import LedgerLookup.Proofs.Client.Deadline
import LedgerLookup.Proofs.Client.Endpoint
import LedgerLookup.Proofs.Client.Independence
import LedgerLookup.Proofs.Client.Outcome
import LedgerLookup.Proofs.Client.Rehearsal
import LedgerLookup.Proofs.Client.Wire
import LedgerLookup.Proofs.Config.Loading
import LedgerLookup.Proofs.Config.Recovery
import LedgerLookup.Proofs.Config.Variables
import LedgerLookup.Proofs.Deployment
import LedgerLookup.Proofs.Environment.Heeding
import LedgerLookup.Proofs.Environment.Shadowing
import LedgerLookup.Proofs.Market.Advice
import LedgerLookup.Proofs.Market.Halves
import LedgerLookup.Proofs.Market.Kinds
import LedgerLookup.Proofs.Market.RateBody
import LedgerLookup.Proofs.Market.RateText
import LedgerLookup.Proofs.Market.Swap
import LedgerLookup.Proofs.RequestUrls
import LedgerLookup.Proofs.Resource.Rereading
import LedgerLookup.Proofs.Resource.Rewriting
