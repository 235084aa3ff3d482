import Lndhubx.Bank.Accountant
import Lndhubx.Lib.Prog
import Lndhubx.LndConnector
import Lndhubx.Nostr

/-!
# The bank engine: its state, its surroundings and its basic operations

`bank/src/bank_engine.rs`, the part every handler is built from. The engine
handles one message at a time. What it owns is the `State`; what differs from
call to call and is not its own is the `Env`: the outcome of every database
call, the clock, the order in which a `HashMap` is walked, the UUIDs drawn, the
tables the API writes and the answers of the LND node. What is fixed for the
life of the process is the `Config`.

Every database call of a handler has its own name in `DbCall`, so that a
statement can say which of them fail. A missing pool and a connection that
cannot be had are one outcome, as the handlers treat them alike. An insert
fails when its call fails or its primary key is taken.

Handlers work on copies: `getDefaultAccount` hands out a copy of an account (or
of a new, empty one), `makeTx` changes two copies, and `insertIntoLedger` and
`putAccount` write copies back. `makeTx` changes its copies *before* its row is
inserted, so a failed insert leaves them changed.

Left out: logging, the `FeeStructure` (constants nobody reads), the
`ln_addresses` table (written and never read) and the conversions between
`Decimal` and `BigDecimal` through text that cannot fail.
-/

namespace Lndhubx

def BANK_UID : UserId := 23193913

def DEALER_UID : UserId := 52172712

structure RateLimiterSettings where
  requestLimit : Nat
  replenishmentInterval : Nat

/-- A decoded invoice of the crate `lightning_invoice`. -/
structure Bolt11 where
  amountMilliSatoshis : Option UInt64
  paymentHash : String
  expiryTime : Nat

/-- The settings, and the pure functions of third-party crates: parsing an
invoice, encoding a link, printing a UUID. -/
structure Config where
  lnNetworkFeeMargin : Decimal
  lnNetworkMaxFee : Decimal
  internalTxFee : Decimal
  externalTxFee : Decimal
  reserveRatio : Decimal
  withdrawalOnly : Bool
  withdrawalRequestRateLimiterSettings : RateLimiterSettings
  depositRequestRateLimiterSettings : RateLimiterSettings
  domain : String
  parseInvoice : String → Option Bolt11
  lnurlEncode : String → Option String → Option String
  uuidText : Uuid → String
  textFns : TextFns

/-- The database calls of one message, and of the loading of the accounts. The two
`make_tx` calls a message can make are its legs 0 and 1. -/
inductive DbCall where
  | conn
  | internalTxConn
  | dealerDepositConn
  | txConn (leg : Nat)
  | txInsert (leg : Nat)
  | summaryConn
  | summaryInsert
  | accountConn (uid : UserId) (id : AccountId)
  | accountUpdate (uid : UserId) (id : AccountId)
  | accountInsert (uid : UserId) (id : AccountId)
  | invoiceGet
  | dealerInvoiceGet
  | invoiceInsert
  | invoiceUpdate
  | outboundUser
  | recipientUser
  | inboundUser
  | payerUser
  | ownerUser
  | profile
  | publicKey
  | dca
  | swaps
  | liabilitiesFetch
  | dealerFetch (accountType : AccountType)
  | usersFetch
  deriving DecidableEq

/-- The readings of the wall clock, in milliseconds. -/
inductive ClockSite where
  | tx (leg : Nat)
  | summary
  | invoice
  | settled
  | lnurl
  deriving DecidableEq

structure Env where
  db : DbCall → Bool
  directory : Directory
  now : ClockSite → Nat
  /-- The monotonic clock of the rate limiters, in milliseconds, the unit of their
  intervals. -/
  instant : Nat
  /-- The order in which a map of accounts is walked. -/
  order : List Account → List Account
  order_perm : ∀ l, (order l).Perm l
  newUuid : List Uuid → Uuid
  newUuid_fresh : ∀ used, newUuid used ∉ used
  /-- Request ids the bank draws, and the UUID printed as a payment hash. -/
  reqUuid : Nat → Uuid
  hashUuid : Uuid
  lnd : Lnd

/-- A spawned payment: the variables its closure captures. -/
structure PaymentTask where
  uid : UserId
  reqId : RequestId
  currency : Currency
  paymentRequest : String
  amountInSats : Decimal
  amountInBtc : Money
  estimatedFeeInSats : Decimal
  rate : Rate
  outboundAmountInBtcPlusMaxFees : Money

abbrev RateLimiter := AList fun _ : UserId => Nat × Nat

/-- The keys the process has made for transactions and for summaries, in order, and
those of them an insert was refused for because they were taken. -/
structure Issued where
  txids : List Txid
  summaryTxids : List Txid
  refused : List Txid

namespace Issued

def none : Issued := ⟨[], [], []⟩

def addTx (i : Issued) (txid : Txid) (taken : Bool) : Issued :=
  { i with txids := i.txids ++ [txid], refused := i.refused ++ if taken then [txid] else [] }

def addSummary (i : Issued) (txid : Txid) (taken : Bool) : Issued :=
  { i with
    summaryTxids := i.summaryTxids ++ [txid]
    refused := i.refused ++ if taken then [txid] else [] }

end Issued

structure State where
  ledger : Ledger
  db : Db
  availableCurrencies : List Currency
  lastRates : List ((Currency × Currency) × Rate)
  txSeq : Nat
  lnurlWithdrawalRequests : AList fun _ : Uuid => Nat × PaymentRequest
  withdrawalRequestRateLimiter : RateLimiter
  depositRequestRateLimiter : RateLimiter
  paymentThreads : List PaymentTask
  /-- How many calls of `make_tx` returned an error. A ghost: no handler reads it. -/
  failedTxs : Nat
  /-- A ghost as well. -/
  issued : Issued
  /-- What the calls of `get_default_account` returned, in order. The last ghost. -/
  defaults : List Account
  /-- What the handler gave to its listener. -/
  sent : List (Message × ServiceIdentity)

/-- `BankEngine::new`, over what the database holds. -/
def State.new (db : Db) (insuranceId : Uuid) : State where
  ledger := Ledger.new BANK_UID DEALER_UID insuranceId
  db
  availableCurrencies := [.BTC]
  lastRates := []
  txSeq := 0
  lnurlWithdrawalRequests := ∅
  withdrawalRequestRateLimiter := ∅
  depositRequestRateLimiter := ∅
  paymentThreads := []
  failedTxs := 0
  issued := .none
  defaults := []
  sent := []

/-- Every account id in use, in memory or stored. -/
def State.usedIds (s : State) : List Uuid :=
  s.ledger.ids ++ s.db.accounts.rows.map (·.accountId)

/-- A handler: a program over the engine's state that may panic. -/
abbrev Handler : Type → Type := Prog State Panic

namespace BankEngine

/-- `listener(msg, destination)`. -/
def send (msg : Message) (destination : ServiceIdentity) : Handler Unit :=
  modify fun s => { s with sent := s.sent ++ [(msg, destination)] }

def sendApi (msg : Api) : Handler Unit := send (.api msg) .api

def sendDealer (msg : Dealer) : Handler Unit := send (.dealer msg) .dealer

def modifyLedger (f : Ledger → Ledger) : Handler Unit :=
  modify fun s => { s with ledger := f s.ledger }

/-! ## The rate limiters -/

/-- One request of `uid` at time `now`: is it admitted, and the new counters. -/
def checkRateLimit (settings : RateLimiterSettings) (now : Nat) (limiter : RateLimiter)
    (uid : UserId) : Bool × RateLimiter :=
  let entry := (limiter.lookup uid).getD (0, now)
  if now - entry.2 < settings.replenishmentInterval then
    (decide (entry.1 + 1 ≤ settings.requestLimit), limiter.insert uid (entry.1 + 1, entry.2))
  else
    (true, limiter.insert uid (0, now))

def checkDepositRequestRateLimit (cfg : Config) (env : Env) (uid : UserId) : Handler Bool := do
  let s ← get
  let (admitted, limiter) := checkRateLimit cfg.depositRequestRateLimiterSettings env.instant
    s.depositRequestRateLimiter uid
  set { s with depositRequestRateLimiter := limiter }
  return admitted

def checkWithdrawalRequestRateLimit (cfg : Config) (env : Env) (uid : UserId) : Handler Bool := do
  let s ← get
  let (admitted, limiter) := checkRateLimit cfg.withdrawalRequestRateLimiterSettings env.instant
    s.withdrawalRequestRateLimiter uid
  set { s with withdrawalRequestRateLimiter := limiter }
  return admitted

/-! ## Accounts -/

/-- The filter of `get_default_account`. -/
def isDefaultFor (currency : Currency) (accountType : Option AccountType) (a : Account) : Bool :=
  match accountType with
  | some t => a.currency = currency && a.accountType = t
  | none => a.currency = currency

/-- The account a call of `get_default_account` returns. -/
def handOut (a : Account) : Handler Account := do
  modify fun s => { s with defaults := s.defaults ++ [a] }
  return a

/-- The first account of a holder in a currency (and of a type, if one is
given), or else a new one. A user must have an entry in the ledger. -/
def getDefaultAccount (env : Env) (o : Owner) (currency : Currency)
    (accountType : Option AccountType) : Handler Account := do
  let s ← get
  match (env.order (s.ledger.holder o).values).filter (isDefaultFor currency accountType) with
  | a :: _ => handOut a
  | [] =>
    let a := Account.new (env.newUuid s.usedIds) currency (accountType.getD .internal) .cash
    modifyLedger (·.put o a)
    handOut a

/-- `user_accounts.entry(uid).or_insert_with(..).get_default_account(..)`. -/
def getOrOpenAccount (env : Env) (uid : UserId) (currency : Currency)
    (accountType : Option AccountType) : Handler Account := do
  modifyLedger (·.openUser uid)
  getDefaultAccount env (.user uid) currency accountType

/-- The account every bitcoin entering or leaving the platform is booked against. -/
def getLiabilityAccount (env : Env) : Handler Account :=
  getDefaultAccount env .bank .BTC (some .external)

def getDealerAccount (env : Env) (currency : Currency) (accountType : AccountType) :
    Handler Account :=
  getDefaultAccount env .dealer currency (some accountType)

def insertIntoLedger (uid : UserId) (a : Account) : Handler Unit := do
  let s ← get
  if s.ledger.hasUser uid then
    modifyLedger (·.put (.user uid) a)
  else
    throw (.explicit "Failed to find user account")

/-- `bank_liabilities.accounts.insert(..)` and `dealer_accounts.accounts.insert(..)`. -/
def putAccount (o : Owner) (a : Account) : Handler Unit :=
  modifyLedger (·.put o a)

/-- `UpdateAccount::update`, and an insert where no row was hit. -/
def storeAccount (db : Db) (canInsert : Bool) (a : Account) (uid : UserId) : Db :=
  if db.accounts.has a.accountId then
    { db with
      accounts := db.accounts.modify a.accountId
        (fun r => { r with balance := a.balance, currency := a.currency.display })
        fun _ => rfl }
  else if canInsert then
    let row : AccountRow :=
      { accountId := a.accountId, balance := a.balance, currency := a.currency.display,
        uid := asI32 uid, accountType := a.accountType.display,
        accountClass := a.accountClass.display }
    match db.accounts.insert row with
    | some accounts => { db with accounts }
    | none => db
  else db

def updateAccount (env : Env) (a : Account) (uid : UserId) : Handler Unit := do
  if !env.db (.accountConn uid a.accountId) then return
  if !env.db (.accountUpdate uid a.accountId) then return
  modify fun s =>
    { s with db := storeAccount s.db (env.db (.accountInsert uid a.accountId)) a uid }

/-- `get_bank_state`. -/
def getBankState : Handler BankState := do
  let s ← get
  let users := s.ledger.userAccountList
  let m ← (users.foldlM addBalance 0 : Checked Tallies)
  return {
    totalExposures :=
      (Currency.all.filter fun c => users.any (·.currency = c)).map fun c => (c, m c)
    insuranceFundAccount := s.ledger.insuranceFundAccount
    fiatExposures := s.ledger.dealerAccounts.values.map fun a => (a.accountId, a) }

def sendBankState : Handler Unit := do
  let bankState ← getBankState
  sendDealer (.bankState bankState)

/-! ## Double entry transaction logic -/

/-- The two copies after `make_tx`, and its result. -/
structure TxOutcome where
  outbound : Account
  inbound : Account
  result : Except BankError Txid

/-- The type of a transaction: external if the accounts' types differ. -/
def txType (outbound inbound : Account) : TxType :=
  if outbound.accountType ≠ inbound.accountType then .external else .internal

/-- `{t}-{seq}`, the key of a transaction. -/
def txidOf (t seq : Nat) : Txid := toString t ++ "-" ++ toString seq

/-- The key of a summary: the millisecond it was written in. -/
def summaryTxidOf (t : Nat) : Txid := toString t

/-- `Err(BankError::FailedTransaction)` of `make_tx`, with the copies as they are then. -/
def failTx (outbound inbound : Account) : Handler TxOutcome := do
  modify fun s => { s with failedTxs := s.failedTxs + 1 }
  return ⟨outbound, inbound, .error .failedTransaction⟩

def makeTx (env : Env) (leg : Nat) (outbound : Account) (outboundUid : UserId)
    (inbound : Account) (inboundUid : UserId) (amount : Money) : Handler TxOutcome := do
  if amount.value ≤ 0 then
    return ← failTx outbound inbound
  if outbound.currency ≠ inbound.currency then
    return ← failTx outbound inbound
  if !env.db (.txConn leg) then
    return ← failTx outbound inbound
  let outboundBalance ← Decimal.sub outbound.balance amount.value
  let inboundBalance ← Decimal.add inbound.balance amount.value
  let outbound' := { outbound with balance := outboundBalance }
  let inbound' := { inbound with balance := inboundBalance }
  let s ← get
  let t := env.now (.tx leg)
  let seq := s.txSeq + 1
  let txid := txidOf t seq
  let row : TransactionRow :=
    { txid
      outboundUid := asI32 outboundUid
      inboundUid := asI32 inboundUid
      createdAt := t
      outboundAmount := amount.value
      inboundAmount := amount.value
      outboundAccountId := outbound.accountId
      inboundAccountId := inbound.accountId
      outboundCurrency := outbound.currency.display
      inboundCurrency := inbound.currency.display
      exchangeRate := (Rate.new outbound.currency inbound.currency 1).value
      txType := (txType outbound inbound).display
      fees := (Money.zero inbound.currency).value }
  match (if env.db (.txInsert leg) then s.db.transactions.insert row else none) with
  | some transactions =>
    set { s with
      txSeq := seq, db := { s.db with transactions }, issued := s.issued.addTx txid false }
    return ⟨outbound', inbound', .ok txid⟩
  | none =>
    -- the copies that are handed back have the new balances
    set { s with txSeq := seq, issued := s.issued.addTx txid (env.db (.txInsert leg)) }
    failTx outbound' inbound'

/-- The arguments of `make_summary_tx`; its `fee_txid` is always `None`. -/
structure SummaryTx where
  outboundAccount : Account
  outboundUid : UserId
  inboundAccount : Account
  inboundUid : UserId
  amount : Money
  rate : Option Rate := none
  fees : Option Money := none
  outboundTxid : Txid
  inboundTxid : Txid
  reference : String
  outboundUsername : Option String := none
  inboundUsername : Option String := none

def makeSummaryTx (env : Env) (x : SummaryTx) : Handler (Except BankError Txid) := do
  if x.amount.value ≤ 0 then
    return .error .failedTransaction
  if x.amount.currency ≠ x.outboundAccount.currency then
    throw .assertion
  if !env.db .summaryConn then
    return .error .failedTransaction
  let rate := x.rate.getD (Rate.new x.outboundAccount.currency x.inboundAccount.currency 1)
  let fees := x.fees.getD (Money.zero x.inboundAccount.currency)
  -- the inbound side is not taken from the transaction but exchanged again
  let exchanged ← x.amount.exchange rate
  let inbound ← Checked.unwrapOk exchanged
  let s ← get
  let t := env.now .summary
  let txid := summaryTxidOf t
  let kind := txType x.outboundAccount x.inboundAccount
  let row : SummaryTransaction :=
    { txid
      outboundTxid := some x.outboundTxid
      inboundTxid := some x.inboundTxid
      feeTxid := none
      outboundUid := asI32 x.outboundUid
      inboundUid := asI32 x.inboundUid
      createdAt := t
      outboundAmount := x.amount.value
      inboundAmount := inbound.value
      outboundAccountId := x.outboundAccount.accountId
      inboundAccountId := x.inboundAccount.accountId
      outboundCurrency := x.outboundAccount.currency.display
      inboundCurrency := x.inboundAccount.currency.display
      exchangeRate := rate.value
      txType := kind.display
      fees := fees.value
      reference := some x.reference
      outboundUsername := some (x.outboundUsername.getD "Unknown")
      inboundUsername := some (x.inboundUsername.getD "Unknown") }
  match (if env.db .summaryInsert then s.db.summaryTransactions.insert row else none) with
  | some summaryTransactions =>
    set { s with
      db := { s.db with summaryTransactions }, issued := s.issued.addSummary txid false }
    send (.journal
      { txid
        outboundUid := x.outboundUid
        inboundUid := x.inboundUid
        outboundAmount := x.amount.value
        inboundAmount := inbound.value
        inboundCurrency := x.inboundAccount.currency
        outboundCurrency := x.outboundAccount.currency
        fees := fees.value
        exchangeRate := rate.value
        txType := kind }) .journal
    return .ok txid
  | none =>
    set { s with issued := s.issued.addSummary txid (env.db .summaryInsert) }
    return .error .failedTransaction

/-! ## Invoices and notifications -/

/-- `Invoice::get_by_payment_request` at a call site. -/
def findInvoice (env : Env) (call : DbCall) (paymentRequest : String) :
    Handler (Option Invoice) := do
  let s ← get
  return if env.db call then s.db.invoiceByPaymentRequest paymentRequest else none

/-- `invoice.insert`; was it stored? -/
def insertInvoice (env : Env) (invoice : Invoice) : Handler Bool := do
  let s ← get
  match (if env.db .invoiceInsert then s.db.invoices.insert invoice else none) with
  | some invoices =>
    set { s with db := { s.db with invoices } }
    return true
  | none => return false

/-- `invoice.update`; a failure is logged and otherwise ignored. -/
def updateInvoice (env : Env) (invoice : Invoice) : Handler Unit :=
  modify fun s => if env.db .invoiceUpdate then { s with db := s.db.updateInvoice invoice } else s

/-- The private message to a user who was paid and asked to be told. -/
def notifyPaid (env : Env) (uid : Int) (text : Checked PaidText) : Handler Unit := do
  let some profile := (if env.db .profile then env.directory.profileByUid uid else none) | return
  let wanted ← Checked.unwrap profile.nostrNotifications
  if wanted then
    let some pk := (if env.db .publicKey then env.directory.publicKeyByUid uid else none) | return
    let text ← text
    send (.nostr (.nostrPrivateMessage { pubkey := pk.pubkey, text })) .nostr

/-- The description hash of a zap note: the one LND reported, or, for a payment
inside the platform, the hash of the description. -/
def zapDescriptionHash (cfg : Config) (description : String) (descriptionHash : Option String)
    (isInternallySettled : Bool) : Checked String :=
  match descriptionHash with
  | some hash => .ok hash
  | none =>
    if isInternallySettled then .ok (cfg.textFns.digest description)
    else .error (.explicit "description_hash is mandatory for external transaction zap note")

def publishIfZapNote (cfg : Config) (invoice : Invoice) (descriptionHash preimage : Option String)
    (settledTimestampSeconds : Nat) (isInternallySettled : Bool) : Handler Unit := do
  if invoice.reference = some ZAP_REQUEST_MEMO then
    let some description := invoice.description | return
    let descHash ← zapDescriptionHash cfg description descriptionHash isInternallySettled
    send (.nostr (.nostrZapNote
      { amount := asU64 invoice.valueMsat
        description
        descriptionHash := descHash
        bolt11 := invoice.paymentRequest
        preimage
        settledTimestamp := settledTimestampSeconds })) .nostr

end BankEngine

end Lndhubx
