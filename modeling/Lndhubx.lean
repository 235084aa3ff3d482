import Lndhubx.Bank.Conservation
import Lndhubx.Bank.ExternalPayment
import Lndhubx.Bank.Invoices
import Lndhubx.Bank.Holds
import Lndhubx.Bank.Lnurl
import Lndhubx.Bank.PaymentTasks
import Lndhubx.Bank.FeeLimits
import Lndhubx.Bank.Deposits
import Lndhubx.Bank.Start
import Lndhubx.Bank.Karma
import Lndhubx.Bank.Transactions
import Lndhubx.Bank.Restart
import Lndhubx.Api.Comms
import Lndhubx.Api.Requests
import Lndhubx.Dealer.Buckets
import Lndhubx.Dealer.Connection
import Lndhubx.Dealer.Requests
import Lndhubx.Dealer.Sizes
import Lndhubx.Dealer.Start
import Lndhubx.SubInvoices
import Lndhubx.Bank.Atomic
import Lndhubx.Bank.Operator
import Lndhubx.Bank.SummaryRuns
import Lndhubx.Bank.FiatInvoices
import Lndhubx.Nostr.Profiles
import Lndhubx.Nostr.Pending
import Lndhubx.Bank.Zaps
import Lndhubx.Bank.Normalize
import Lndhubx.Bank.Txids
import Lndhubx.Bank.Defaults
import Lndhubx.Nostr.Arrivals
import Lndhubx.Nostr.ZapRequests
import Lndhubx.Bank.Charges
import Lndhubx.Bank.Journey
import Lndhubx.Core.Exchange
import Lndhubx.Api.Registrations
import Lndhubx.Dealer.Convergence
import Lndhubx.Dealer.Fees
import Lndhubx.Bank.NodeBalance
import Lndhubx.Usernames
import Lndhubx.Bank.Dca
import Lndhubx.Nostr.Indexer
import Lndhubx.Nostr.UpsertQuery
import Lndhubx.Api.ClientQuota
import Lndhubx.Api.Search
import Lndhubx.Nostr.Search
import Lndhubx.Bank.Exposures
import Lndhubx.Bank.Swaps
import Lndhubx.Platform
import Lndhubx.Answered
import Lndhubx.Authority
import Lndhubx.Nostr.Checks
import Lndhubx.Debits
