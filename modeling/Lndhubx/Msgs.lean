import Lndhubx.Core.Types

/-!
# The messages between the API, the bank, the dealer and the nostr engine

`msgs/src`. Every structure keeps the fields of its source, in the source's
words. A `HashMap` inside a message is the list of its pairs. Three contents
are kept in structured form where the source prints them: the text of a
payment notification (`PaidText`), the amounts of a journal entry (numbers
here, `f64` on the wire) and the answer of the operator's tool
(`MakeTxResult.result`).

Messages of the exchange (`KolliderApiResponse`) reach only the dealer and
are left out: the bank ignores them.
-/

namespace Lndhubx

/-! ## `msgs/src/api.rs` -/

inductive InvoiceResponseError where
  | accountDoesNotExist
  | rateNotAvailable
  | withdrawalOnly
  | depositLimitExceeded
  | requestLimitExceeded
  | databaseConnectionFailed
  | invoicingSuspended
  deriving DecidableEq

inductive CreateLnurlWithdrawalError where
  | insufficientFunds
  | failedToCreateLnUrl
  | invalidAmount
  | userAccountNotFound
  deriving DecidableEq

inductive GetLnurlWithdrawalError where
  | requestNotFound
  deriving DecidableEq

inductive PayLnurlWithdrawalError where
  | requestNotFound
  deriving DecidableEq

inductive SwapResponseError where
  | invalid
  | currencyNotAvailable
  | invalidQuoteId
  | notEnoughAvailableBalance
  | btcNotFromTo
  | userAccountNotFound
  | databaseConnectionFailed
  | transactionFailed
  deriving DecidableEq

inductive QuoteResponseError where
  | invalid
  | serviceNotAvailable
  | currencyNotAvailable
  | marketNotAvailable
  | btcNotFromTo
  deriving DecidableEq

inductive NostrResponseError where
  | profileNotFound
  | errorSendingPrivateMessage
  deriving DecidableEq

inductive QueryRouteError where
  | noRouteFound
  deriving DecidableEq

inductive AvailableCurrenciesResponseError where
  | generalError
  deriving DecidableEq

inductive PaymentResponseError where
  | insufficientFunds
  | insufficientFundsForFees
  | zeroAmountInvoice
  | invoiceAlreadyPaid
  | selfPayment
  | rateNotAvailable
  | userDoesNotExist
  | requestLimitExceeded
  | invalidAmount
  | userAccountNotFound
  | transactionFailed
  | databaseConnectionFailed
  | invalidInvoice
  | creatingInvoiceFailed
  deriving DecidableEq

structure InvoiceRequest where
  reqId : RequestId
  uid : UserId
  amount : Money
  «meta» : String
  metadata : Option String
  currency : Currency
  accountId : Option Uuid
  targetAccountCurrency : Option Currency

structure InvoiceResponse where
  reqId : RequestId
  uid : UserId
  paymentHash : Option String
  paymentRequest : Option String
  «meta» : String
  metadata : Option String
  amount : Money
  rate : Option Rate
  currency : Currency
  targetAccountCurrency : Option Currency
  accountId : Option Uuid
  error : Option InvoiceResponseError
  fees : Option Money

structure PaymentRequest where
  reqId : RequestId
  uid : UserId
  paymentRequest : Option String
  currency : Currency
  recipient : Option String
  destination : Option String
  amount : Option Money
  invoiceAmount : Option Money
  rate : Option Rate
  fees : Option Money

structure PaymentResponse where
  reqId : RequestId
  paymentHash : String
  uid : UserId
  success : Bool
  currency : Currency
  paymentRequest : Option String
  amount : Option Money
  fees : Option Money
  rate : Option Rate
  error : Option PaymentResponseError
  paymentPreimage : Option String
  destination : Option String
  description : Option String

structure SwapRequest where
  reqId : RequestId
  uid : UserId
  amount : Money
  fromCurrency : Currency
  toCurrency : Currency
  quoteId : Option Nat

structure SwapResponse where
  reqId : RequestId
  uid : UserId
  success : Bool
  amount : Money
  fromCurrency : Currency
  toCurrency : Currency
  rate : Option Rate
  error : Option SwapResponseError
  fees : Option Money

structure GetBalances where
  reqId : RequestId
  uid : UserId

/-- `BalancesResponseError` has no values, so `error` is always `None`. -/
structure Balances where
  reqId : RequestId
  uid : UserId
  accounts : List (AccountId × Account)

structure QuoteRequest where
  reqId : RequestId
  uid : UserId
  amount : Money
  fromCurrency : Currency
  toCurrency : Currency

structure QuoteResponse where
  reqId : RequestId
  uid : UserId
  amount : Money
  fromCurrency : Currency
  toCurrency : Currency
  validUntil : Nat
  rate : Option Rate
  quoteId : Option Nat
  error : Option QuoteResponseError
  fees : Option Money

structure AvailableCurrenciesRequest where
  reqId : RequestId

structure AvailableCurrenciesResponse where
  reqId : RequestId
  currencies : List Currency
  error : Option AvailableCurrenciesResponseError

structure LndNodeInfo where
  identityPubkey : String := ""
  uris : List String := []
  numActiveChannels : Nat := 0
  numPendingChannels : Nat := 0
  numPeers : Nat := 0
  testnet : Bool := false

structure GetNodeInfoRequest where
  reqId : RequestId

structure GetNodeInfoResponse where
  reqId : RequestId
  lndNodeInfo : LndNodeInfo
  lnNetworkMaxFee : Decimal
  lnNetworkFeeMargin : Decimal
  reserveRatio : Decimal
  externalTxFee : Decimal
  internalTxFee : Decimal

structure CreateLnurlWithdrawalRequest where
  reqId : RequestId
  uid : UserId
  amount : Money
  currency : Currency
  rate : Option Rate
  fees : Option Money

structure CreateLnurlWithdrawalResponse where
  reqId : RequestId
  lnurl : Option String
  error : Option CreateLnurlWithdrawalError

structure GetLnurlWithdrawalRequest where
  reqId : RequestId

structure GetLnurlWithdrawalResponse where
  reqId : RequestId
  maxWithdrawable : Nat
  minWithdrawable : Nat
  defaultDescription : String
  tag : String
  callback : String
  error : Option GetLnurlWithdrawalError

structure PayLnurlWithdrawalRequest where
  reqId : RequestId
  paymentRequest : String

structure PayLnurlWithdrawalResponse where
  reqId : RequestId
  error : Option PayLnurlWithdrawalError

structure QueryRouteRequest where
  reqId : RequestId
  paymentRequest : String
  maxFee : Option Decimal

structure QueryRouteResponse where
  reqId : RequestId
  totalFee : Decimal
  error : Option QueryRouteError

structure NostrProfileRequest where
  reqId : RequestId
  pubkey : Option String
  lightningAddress : Option String

structure NostrProfileSearchRequest where
  reqId : RequestId
  text : Option String
  pubkey : Option String
  limit : Option Nat

structure NostrProfile where
  banner : Option String
  website : Option String
  lud06 : Option String
  nip05 : Option String
  picture : Option String
  displayName : Option String
  about : Option String
  name : Option String
  lud16 : Option String
  nip05Verified : Option Bool

structure ShareableNostrProfile where
  pubkey : String
  createdAt : Int
  profile : NostrProfile
  validatedLnurlPayReq : Option String

structure NostrProfileSearchResponse where
  reqId : RequestId
  data : List ShareableNostrProfile
  error : Option NostrResponseError

inductive Api where
  | invoiceRequest (msg : InvoiceRequest)
  | invoiceResponse (msg : InvoiceResponse)
  | paymentRequest (msg : PaymentRequest)
  | paymentResponse (msg : PaymentResponse)
  | swapRequest (msg : SwapRequest)
  | swapResponse (msg : SwapResponse)
  | getBalances (msg : GetBalances)
  | balances (msg : Balances)
  | quoteRequest (msg : QuoteRequest)
  | quoteResponse (msg : QuoteResponse)
  | availableCurrenciesRequest (msg : AvailableCurrenciesRequest)
  | availableCurrenciesResponse (msg : AvailableCurrenciesResponse)
  | getNodeInfoRequest (msg : GetNodeInfoRequest)
  | getNodeInfoResponse (msg : GetNodeInfoResponse)
  | createLnurlWithdrawalRequest (msg : CreateLnurlWithdrawalRequest)
  | createLnurlWithdrawalResponse (msg : CreateLnurlWithdrawalResponse)
  | getLnurlWithdrawalRequest (msg : GetLnurlWithdrawalRequest)
  | getLnurlWithdrawalResponse (msg : GetLnurlWithdrawalResponse)
  | payLnurlWithdrawalRequest (msg : PayLnurlWithdrawalRequest)
  | payLnurlWithdrawalResponse (msg : PayLnurlWithdrawalResponse)
  | queryRouteRequest (msg : QueryRouteRequest)
  | queryRouteResponse (msg : QueryRouteResponse)
  | nostrProfileRequest (msg : NostrProfileRequest)
  | nostrProfileSearchRequest (msg : NostrProfileSearchRequest)
  | nostrProfileSearchResponse (msg : NostrProfileSearchResponse)

/-! ## `msgs/src/dealer.rs` -/

structure BankStateRequest where
  reqId : RequestId

structure BankState where
  totalExposures : List (Currency × Decimal)
  fiatExposures : List (AccountId × Account)
  insuranceFundAccount : Account

structure PayInvoice where
  reqId : RequestId
  paymentRequest : String

structure CreateInvoiceRequest where
  reqId : RequestId
  amount : Nat
  memo : String

structure CreateInvoiceResponse where
  reqId : RequestId
  amount : Nat
  paymentRequest : String

inductive HealthStatus where
  | running
  | down
  deriving DecidableEq

structure DealerHealth where
  status : HealthStatus
  availableCurrencies : List Currency
  rates : List ((Currency × Currency) × Rate)
  timestamp : Nat

structure FiatDepositRequest where
  reqId : RequestId
  amount : Money
  currency : Currency
  paymentRequest : String
  uid : UserId

inductive FiatDepositResponseError where
  | currencyNotAvailable
  deriving DecidableEq

structure FiatDepositResponse where
  reqId : RequestId
  amount : Money
  rate : Option Rate
  paymentRequest : String
  currency : Currency
  uid : UserId
  error : Option FiatDepositResponseError
  fees : Option Money

structure KarmaBalance where
  karma : Decimal

/-- `BankStateResponse` is sent and handled nowhere and has no constructor. -/
inductive Dealer where
  | bankStateRequest (msg : BankStateRequest)
  | bankState (msg : BankState)
  | health (msg : DealerHealth)
  | payInvoice (msg : PayInvoice)
  | payInsuranceInvoice (msg : PayInvoice)
  | createInvoiceRequest (msg : CreateInvoiceRequest)
  | createInsuranceInvoiceRequest (msg : CreateInvoiceRequest)
  | createInvoiceResponse (msg : CreateInvoiceResponse)
  | fiatDepositRequest (msg : FiatDepositRequest)
  | fiatDepositResponse (msg : FiatDepositResponse)
  | karmaBalance (msg : KarmaBalance)

/-! ## `msgs/src/bank.rs`, `cli.rs`, `nostr.rs`, `journal.rs`, `lib.rs` -/

structure PaymentResult where
  uid : UserId
  currency : Currency
  rate : Rate
  isSuccess : Bool
  amount : Money
  paymentResponse : PaymentResponse
  error : Option String

structure DcaRebalance where
  intervalName : String

inductive Bank where
  | paymentResult (msg : PaymentResult)
  | dcaRebalance (msg : DcaRebalance)

structure MakeTx where
  outboundUid : UserId
  outboundAccountId : AccountId
  inboundUid : UserId
  inboundAccountId : AccountId
  amount : Decimal
  currency : Currency

inductive BankError where
  | userAccountNotFound
  | accountNotFound
  | userAccountAlreadyExists
  | failedTransaction
  | swapError
  deriving DecidableEq

/-- `Ok` prints as `Successful`, an error as its name. -/
structure MakeTxResult where
  tx : MakeTx
  result : Except BankError Unit

inductive Cli where
  | makeTx (msg : MakeTx)
  | makeTxResult (msg : MakeTxResult)

/-- `💸 You just got paid {amount} {unit} into your Kollider Wallet! 💰` -/
structure PaidText where
  amount : Decimal
  unit : String

structure NostrPrivateMessage where
  pubkey : String
  text : PaidText

structure NostrZapNote where
  amount : Nat
  description : String
  descriptionHash : String
  bolt11 : String
  preimage : Option String
  settledTimestamp : Nat

structure NostrProfilesRefetchRequest where
  pubkey : Option String
  sinceEpochMs : Option Nat
  untilEpochMs : Option Nat
  limit : Option Nat

inductive Nostr where
  | nostrPrivateMessage (msg : NostrPrivateMessage)
  | nostrZapNote (msg : NostrZapNote)
  | nostrProfilesRefetchRequest (msg : NostrProfilesRefetchRequest)

/-- `Internal` and `External`, the two values of `tx_type`. -/
abbrev TxType := AccountType

structure JournalTransaction where
  txid : Txid
  outboundCurrency : Currency
  inboundCurrency : Currency
  outboundAmount : Decimal
  inboundAmount : Decimal
  outboundUid : UserId
  inboundUid : UserId
  txType : TxType
  fees : Decimal
  exchangeRate : Decimal

structure Deposit where
  paymentRequest : String
  paymentHash : String
  descriptionHash : String
  preimage : String
  value : Nat
  valueMsat : Nat
  settled : Bool
  creationDate : Nat
  settleDate : Nat

inductive Message where
  | api (msg : Api)
  | deposit (msg : Deposit)
  | dealer (msg : Dealer)
  | bank (msg : Bank)
  | cli (msg : Cli)
  | nostr (msg : Nostr)
  | journal (msg : JournalTransaction)

end Lndhubx
