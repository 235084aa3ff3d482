import Lndhubx.Bank.Engine

/-!
# Money coming in: invoices and deposits

The handlers of `bank/src/bank_engine.rs` by which money reaches the platform.

A user's invoice is made by `invoiceRequest`, or, when it is in a fiat
currency, by `invoiceResponse` after the dealer has quoted a rate. When LND
reports it paid, `deposit` credits the owner in bitcoin, or asks the dealer to
convert; the dealer's answer comes back to `fiatDepositResponse`, which credits
the owner in fiat and the dealer in bitcoin.

The dealer's own transfers (`handleDealerDeposit`, `processDealerInvoice`) run
between its internal account and an external one: its own when the money stays
with the exchange, the bank's when it does not. The two branches of the source
differ in that owner only, here the argument `counterparty`.
-/

namespace Lndhubx

/-- The answer to an invoice request that made no invoice. -/
def InvoiceRequest.refused (msg : InvoiceRequest) (accountId : Option Uuid)
    (error : InvoiceResponseError) : InvoiceResponse where
  amount := msg.amount
  reqId := msg.reqId
  uid := msg.uid
  «meta» := msg.meta
  metadata := msg.metadata
  rate := none
  paymentRequest := none
  paymentHash := none
  currency := msg.currency
  targetAccountCurrency := msg.targetAccountCurrency
  accountId
  error := some error
  fees := none

/-- The same answer, built from the dealer's response. -/
def InvoiceResponse.refused (msg : InvoiceResponse) (accountId : Option Uuid)
    (error : InvoiceResponseError) : InvoiceResponse :=
  { msg with rate := none, paymentRequest := none, paymentHash := none, accountId,
             error := some error, fees := none }

namespace BankEngine

/-- Whose external account a transfer of the dealer is booked against. -/
def counterpartyUid : Owner → UserId
  | .bank => BANK_UID
  | .dealer => DEALER_UID
  | .user uid => uid

/-- The account an invoice pays into: the one asked for, if the user has it, or
the default one. A request for an unknown account is answered with a fresh id. -/
def targetAccount (env : Env) (uid : UserId) (accountId : Option Uuid) (currency : Currency) :
    Handler (Except Uuid Account) := do
  let s ← get
  match accountId with
  | some id =>
    match s.ledger.get (.user uid, id) with
    | some a => return .ok a
    | none => return .error (env.newUuid s.usedIds)
  | none =>
    let a ← getDefaultAccount env (.user uid) currency none
    return .ok a

/-- A stored currency name; `None` means bitcoin. -/
def storedCurrency : Option String → Checked Currency
  | none => .ok .BTC
  | some text =>
    match Currency.fromStr text with
    | some c => .ok c
    | none => .error (.explicit "Failed to convert into a valid currency")

/-! ## Making an invoice -/

/-- Sats of an amount that must fit a `u64`. -/
def wholeSats (amount : Money) : Checked Nat := do
  let sats ← amount.trySats
  let sats ← Checked.unwrapOk sats
  match Decimal.toU64 sats with
  | some n => return n
  | none => throw (.explicit "Failed to convert decimal amount in BTC to u64 amount in SATs")

def invoiceRequest (cfg : Config) (env : Env) (msg : InvoiceRequest) : Handler Unit := do
  let admitted ← checkDepositRequestRateLimit cfg env msg.uid
  if !admitted then
    sendApi (.invoiceResponse (msg.refused none .requestLimitExceeded))
    return
  modifyLedger (·.openUser msg.uid)
  if cfg.withdrawalOnly then
    sendApi (.invoiceResponse (msg.refused none .withdrawalOnly))
    return
  if !env.db .conn then
    sendApi (.invoiceResponse (msg.refused none .databaseConnectionFailed))
    return
  match ← targetAccount env msg.uid msg.accountId msg.currency with
  | .error id =>
    sendApi (.invoiceResponse (msg.refused (some id) .accountDoesNotExist))
  | .ok target =>
    let msg := if target.currency ≠ msg.currency then
      { msg with targetAccountCurrency := some target.currency } else msg
    -- If user wants to deposit another currency we have to go through the dealer.
    if msg.currency ≠ .BTC then
      send (.api (.invoiceRequest msg)) .dealer
      return
    let amountInSats ← wholeSats msg.amount
    let .ok invoice := LndConnector.createInvoice cfg.textFns env.lnd (env.now .invoice)
      amountInSats msg.meta msg.uid target.accountId msg.metadata | return
    let invoice := { invoice with
      currency := some msg.currency.display
      targetAccountCurrency := msg.targetAccountCurrency.map (·.display) }
    let stored ← insertInvoice env invoice
    if !stored then
      sendApi (.invoiceResponse (msg.refused (some target.accountId) .databaseConnectionFailed))
      return
    sendApi (.invoiceResponse
      { amount := msg.amount
        reqId := msg.reqId
        uid := msg.uid
        «meta» := msg.meta
        metadata := msg.metadata
        rate := none
        paymentRequest := some invoice.paymentRequest
        paymentHash := some invoice.paymentHash
        currency := msg.currency
        targetAccountCurrency := msg.targetAccountCurrency
        accountId := some target.accountId
        error := none
        fees := none })

/-- Sats of a fiat amount, rounded up to a whole number. -/
def satsOfFiat (amount : Money) (rate : Rate) : Checked Nat := do
  let amountInBtc ← Decimal.div amount.value rate.value
  let sats ← (Money.fromBtc amountInBtc).trySats
  let sats ← Checked.unwrapOk sats
  match Decimal.toU64 (sats.roundDpWithStrategy 0 .awayFromZero) with
  | some n => return n
  | none => throw (.explicit "explicit panic")

def invoiceResponse (cfg : Config) (env : Env) (msg : InvoiceResponse) : Handler Unit := do
  let some rate := msg.rate | do
    sendApi (.invoiceResponse { msg with error := some .rateNotAvailable })
    return
  let amountInSats ← satsOfFiat msg.amount rate
  if !env.db .conn then
    sendApi (.invoiceResponse (msg.refused none .databaseConnectionFailed))
    return
  modifyLedger (·.openUser msg.uid)
  match ← targetAccount env msg.uid msg.accountId .BTC with
  | .error id =>
    sendApi (.invoiceResponse (msg.refused (some id) .accountDoesNotExist))
  | .ok target =>
    let .ok invoice := LndConnector.createInvoice cfg.textFns env.lnd (env.now .invoice)
      amountInSats msg.meta msg.uid target.accountId msg.metadata | return
    let invoice := { invoice with currency := some msg.currency.display }
    let stored ← insertInvoice env invoice
    if !stored then
      sendApi (.invoiceResponse (msg.refused (some target.accountId) .databaseConnectionFailed))
      return
    sendApi (.invoiceResponse
      { msg with
        paymentRequest := some invoice.paymentRequest
        paymentHash := some invoice.paymentHash
        accountId := some target.accountId
        error := none })

/-! ## A deposit arrives -/

def handleDealerDeposit (env : Env) (deposit : Deposit) : Handler Unit := do
  if !env.db .dealerDepositConn then return
  let some invoice ← findInvoice env .dealerInvoiceGet deposit.paymentRequest | return
  let some reference := invoice.reference | return
  if reference ≠ "KolliderSettlement" ∧ reference ≠ "ExternalDeposit" then return
  let counterparty : Owner := if reference = "KolliderSettlement" then .dealer else .bank
  let inbound ← getDealerAccount env .BTC .internal
  let outbound ← getDefaultAccount env counterparty .BTC (some .external)
  let value := Money.fromSats invoice.value
  -- The result is only logged: the copies are written back either way.
  let tx ← makeTx env 0 outbound (counterpartyUid counterparty) inbound DEALER_UID value
  putAccount .dealer tx.inbound
  updateAccount env tx.inbound DEALER_UID
  putAccount counterparty tx.outbound
  updateAccount env tx.outbound (counterpartyUid counterparty)

def settleInvoice (env : Env) (invoice : Invoice) : Invoice :=
  { invoice with settled := true, settledDate := env.now .settled }

/-- The bitcoin deposit of `deposit`, once it is clear that nothing has to be
converted. -/
def depositBtc (cfg : Config) (env : Env) (msg : Deposit) (invoice : Invoice) : Handler Unit := do
  let value := Money.fromSats invoice.value
  let uid := asU64 invoice.uid
  let inbound ← getOrOpenAccount env uid .BTC none
  let liability ← getLiabilityAccount env
  let ⟨liability, inbound, .ok txid⟩ ← makeTx env 0 liability BANK_UID inbound uid value | return
  insertIntoLedger uid inbound
  putAccount .bank liability
  updateAccount env inbound uid
  updateAccount env liability BANK_UID
  let .ok _ ← makeSummaryTx env
    { outboundAccount := liability, outboundUid := BANK_UID, inboundAccount := inbound,
      inboundUid := uid, amount := value, outboundTxid := txid, inboundTxid := txid,
      reference := "ExternalDeposit" } | return
  updateInvoice env (settleInvoice env invoice)
  notifyPaid env invoice.uid do
    let sats ← value.trySats
    let sats ← Checked.unwrapOk sats
    return { amount := sats.roundDp 0, unit := "Sats" }
  publishIfZapNote cfg (settleInvoice env invoice) (some msg.descriptionHash) (some msg.preimage)
    msg.settleDate false

def deposit (cfg : Config) (env : Env) (msg : Deposit) : Handler Unit := do
  if !env.db .conn then return
  let some invoice ← findInvoice env .invoiceGet msg.paymentRequest | return
  if asU64 invoice.uid = DEALER_UID then
    handleDealerDeposit env msg
    return
  let currency ← storedCurrency invoice.currency
  -- If user wants to deposit into a fiat account.
  let target ← storedCurrency invoice.targetAccountCurrency
  -- Note a user could deposit with a sat specified invoice and then deposit into a fiat account.
  if currency ≠ .BTC ∨ (currency = .BTC ∧ target ≠ .BTC) then
    sendDealer (.fiatDepositRequest
      { uid := asU64 invoice.uid
        paymentRequest := invoice.paymentRequest
        currency := if currency = .BTC then target else currency
        reqId := env.reqUuid 0
        amount := Money.fromSats invoice.value })
    return
  depositBtc cfg env msg invoice

def fiatDepositResponse (env : Env) (msg : FiatDepositResponse) : Handler Unit := do
  if msg.error.isSome then return
  if !env.db .conn then return
  let some invoice ← findInvoice env .invoiceGet msg.paymentRequest | return
  let some rate := msg.rate | return
  let inbound ← getOrOpenAccount env msg.uid msg.currency none
  let dealerFiat ← getDealerAccount env msg.currency .internal
  let dealerBtc ← getDealerAccount env .BTC .internal
  let liabilities ← getLiabilityAccount env
  let value := msg.amount
  let exchanged ← value.exchange rate
  let fiatValue ← Checked.unwrapOk exchanged
  -- Adding BTC to dealer account.
  let ⟨liabilities, dealerBtc, .ok outboundTxid⟩ ←
    makeTx env 0 liabilities BANK_UID dealerBtc DEALER_UID value | return
  -- Adding fiat to User Account from dealer.
  let ⟨dealerFiat, inbound, .ok inboundTxid⟩ ←
    makeTx env 1 dealerFiat DEALER_UID inbound msg.uid fiatValue | return
  insertIntoLedger msg.uid inbound
  putAccount .bank liabilities
  putAccount .dealer dealerBtc
  putAccount .dealer dealerFiat
  updateAccount env inbound msg.uid
  updateAccount env liabilities BANK_UID
  updateAccount env dealerBtc DEALER_UID
  updateAccount env dealerFiat DEALER_UID
  sendBankState
  let .ok _ ← makeSummaryTx env
    { outboundAccount := liabilities, outboundUid := BANK_UID, inboundAccount := inbound,
      inboundUid := msg.uid, amount := value, rate := some rate, outboundTxid,
      inboundTxid, reference := "ExternalDeposit" } | return
  updateInvoice env (settleInvoice env invoice)
  notifyPaid env invoice.uid
    (.ok { amount := fiatValue.value.roundDpWithStrategy 2 .toZero, unit := msg.currency.display })

/-! ## Transfers of the dealer -/

def processDealerInvoice (cfg : Config) (env : Env) (msg : PayInvoice) (isExternal : Bool) :
    Handler Unit := do
  let some decoded := cfg.parseInvoice msg.paymentRequest | return
  let some millisats := decoded.amountMilliSatoshis
    | throw (.explicit "Amount in millisatoshi is not specified")
  -- scale 3, which corresponds to dividing by 10^3 = 1000
  let amountInSats : Decimal := LndConnector.asI64 millisats.toNat / 1000
  let result ← LndConnector.payInvoice env.lnd (some msg.paymentRequest) amountInSats
    (some cfg.lnNetworkMaxFee) none
  let .ok _ := result | return
  let counterparty : Owner := if isExternal then .bank else .dealer
  let inbound ← getDefaultAccount env counterparty .BTC (some .external)
  let outbound ← getDealerAccount env .BTC .internal
  let ⟨outbound, inbound, .ok _⟩ ← makeTx env 0 outbound DEALER_UID inbound
    (counterpartyUid counterparty) (Money.fromSats amountInSats) | return
  updateAccount env inbound (counterpartyUid counterparty)
  updateAccount env outbound DEALER_UID
  putAccount counterparty inbound
  putAccount .dealer outbound

def processCreateInvoiceRequest (cfg : Config) (env : Env) (req : CreateInvoiceRequest)
    (invoiceOwner : UserId) : Handler Unit := do
  if !env.db .conn then return
  let account ← (if invoiceOwner = BANK_UID then getLiabilityAccount env
    else if invoiceOwner = DEALER_UID then getDealerAccount env .BTC .internal
    else throw (.explicit "Unexpected invoice owner. It can be Bank or Dealer only"))
  let .ok invoice := LndConnector.createInvoice cfg.textFns env.lnd (env.now .invoice)
    req.amount req.memo invoiceOwner account.accountId none | return
  let stored ← insertInvoice env invoice
  if !stored then return
  sendDealer (.createInvoiceResponse
    { reqId := req.reqId, paymentRequest := invoice.paymentRequest, amount := req.amount })

end BankEngine

end Lndhubx
