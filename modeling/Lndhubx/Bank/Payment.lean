import Lndhubx.Bank.Deposit

/-!
# Money going out: payments, their results and refunds

The handlers `Api::PaymentRequest` and `Bank::PaymentResult` of
`bank/src/bank_engine.rs`.

A payment request is admitted (`paymentRequest`), routed by its recipient
(`routeRecipient`), decoded and priced (`payLightning`) and then paid in one
of three ways: between two users (`makeInternalTx`, also when the invoice turns
out to belong to a user, `payOwner`), or out of the platform (`payExternally`).
An external payment is debited first, amount and estimated fee together
(`debitFiat`, `debitBtc`), and handed to a task that talks to the node; the
task's `PaymentResult` comes back as a message, and either moves the unused fee
to the dealer (`settlePayment`) or pays the debit back (`refundPayment`).
-/

namespace Lndhubx

/-- `PaymentResponse::error`. -/
def PaymentRequest.refused (cfg : Config) (env : Env) (msg : PaymentRequest)
    (error : PaymentResponseError) : PaymentResponse where
  error := some error
  amount := none
  paymentHash := cfg.uuidText env.hashUuid
  reqId := msg.reqId
  uid := msg.uid
  success := false
  paymentRequest := msg.paymentRequest
  currency := msg.currency
  fees := none
  rate := none
  paymentPreimage := none
  description := none
  destination := none

namespace BankEngine

/-! ## Between two users -/

def makeInternalTx (cfg : Config) (env : Env) (req : PaymentRequest) :
    Handler (Except PaymentResponseError Unit) := do
  if !env.db .internalTxConn then return .error .databaseConnectionFailed
  let some inboundUsername := req.recipient
    | throw (.explicit "Recipient's username not specified")
  let outboundUid := req.uid
  -- This should be in outbound currency.
  let amount ← Checked.unwrap req.amount
  let response : PaymentResponse :=
    { amount := some amount
      paymentHash := cfg.uuidText env.hashUuid
      reqId := req.reqId
      uid := outboundUid
      success := false
      paymentRequest := none
      currency := req.currency
      fees := some (Money.zero req.currency)
      error := none
      rate := some (req.rate.getD (Rate.new req.currency req.currency 1))
      paymentPreimage := none
      destination := none
      description := none }
  let some inboundUser :=
      (if env.db .inboundUser then env.directory.userByUsername inboundUsername else none) | do
    sendApi (.paymentResponse { response with error := some .userDoesNotExist })
    return .error .userDoesNotExist
  let some outboundUser :=
      (if env.db .payerUser then env.directory.userById (asI32 outboundUid) else none) | do
    sendApi (.paymentResponse { response with error := some .userDoesNotExist })
    return .error .userDoesNotExist
  let inboundUid := asU64 inboundUser.uid
  if inboundUid = outboundUid then
    return .error .selfPayment
  let s ← get
  if !s.ledger.hasUser outboundUid then
    return .error .userAccountNotFound
  let outbound ← getDefaultAccount env (.user outboundUid) req.currency none
  let inbound ← getOrOpenAccount env inboundUid req.currency none
  if outbound.balance < amount.value then
    sendApi (.paymentResponse { response with error := some .insufficientFunds })
    return .error .insufficientFunds
  let ⟨outbound, inbound, .ok txid⟩ ←
    makeTx env 0 outbound outboundUid inbound inboundUid amount
    | return .error .transactionFailed
  let .ok _ ← makeSummaryTx env
    { outboundAccount := outbound, outboundUid, inboundAccount := inbound, inboundUid, amount,
      outboundTxid := txid, inboundTxid := txid, reference := "InternalTransfer",
      outboundUsername := some (outboundUser.username ++ "@" ++ cfg.domain),
      inboundUsername := some (inboundUsername ++ "@" ++ cfg.domain) }
    | return .error .transactionFailed
  insertIntoLedger inboundUid inbound
  insertIntoLedger outboundUid outbound
  -- Update DB.
  updateAccount env outbound outboundUid
  updateAccount env inbound inboundUid
  sendApi (.paymentResponse { response with success := true })
  return .ok ()

/-- Where a payment request goes. -/
inductive Recipient where
  /-- To a user of the platform, by name. -/
  | user (username : String)
  /-- By its invoice; the name is the one written into the summary. -/
  | invoice (inboundUsername : String)
  deriving DecidableEq

/-- `recipient.split('@')`. -/
def splitAddress (recipient : String) : List String :=
  (recipient.toList.splitOn '@').map String.ofList

/-- If user specified a username then we attempt to make an internal transaction. -/
def routeRecipient (cfg : Config) (env : Env) (msg : PaymentRequest) : Recipient :=
  match msg.recipient with
  | none => .invoice "Unknown"
  | some recipient =>
    match splitAddress recipient with
    | [] => .invoice "Unknown"
    | username :: rest =>
      let isInternal := env.db .recipientUser && (env.directory.userByUsername username).isSome
      match rest with
      | [domain] =>
        -- Making sure this address has generated a payment request.
        if msg.paymentRequest.isSome ∧ domain ≠ cfg.domain then .invoice recipient
        else if domain = cfg.domain ∧ isInternal then .user username
        else .invoice "Unknown"
      | _ => if isInternal then .user username else .invoice "Unknown"

/-! ## Out of the platform -/

/-- What an outgoing payment has been found to cost. `msg` carries the amount
in its own currency and the rate. -/
structure Outgoing where
  msg : PaymentRequest
  paymentRequest : String
  outboundUsername : String
  inboundUsername : String
  amountInSats : Decimal
  amountInBtc : Money
  estimatedFeeInBtc : Money
  rate : Rate
  /-- Amount and fee, in bitcoin and in the currency that pays. -/
  totalInBtc : Money
  debit : Money
  response : PaymentResponse

/-- Through the dealer: the user pays fiat to the dealer, the dealer bitcoin to
the liability account. Is the payment to go on? -/
def debitFiat (env : Env) (p : Outgoing) (outbound liability : Account) : Handler Bool := do
  let uid := p.msg.uid
  let dealerFiat ← getDealerAccount env p.msg.currency .internal
  -- User account to dealer account.
  let ⟨outbound, dealerFiat, .ok outboundTxid⟩ ←
    makeTx env 0 outbound uid dealerFiat DEALER_UID p.debit | return false
  let dealerBtc ← getDealerAccount env .BTC .internal
  let ⟨dealerBtc, liability, .ok inboundTxid⟩ ←
    makeTx env 1 dealerBtc DEALER_UID liability BANK_UID p.totalInBtc | return false
  insertIntoLedger uid outbound
  putAccount .bank liability
  putAccount .dealer dealerFiat
  putAccount .dealer dealerBtc
  updateAccount env outbound uid
  updateAccount env liability BANK_UID
  updateAccount env dealerBtc DEALER_UID
  updateAccount env dealerFiat DEALER_UID
  let .ok _ ← makeSummaryTx env
    { outboundAccount := outbound, outboundUid := uid, inboundAccount := liability,
      inboundUid := BANK_UID, amount := p.debit, rate := some p.rate,
      fees := some p.estimatedFeeInBtc, outboundTxid, inboundTxid,
      reference := "ExternalPayment",
      outboundUsername := some (p.outboundUsername ++ "@kollider.xyz"),
      inboundUsername := some p.inboundUsername } | return false
  return true

def debitBtc (env : Env) (p : Outgoing) (outbound liability : Account) : Handler Bool := do
  let uid := p.msg.uid
  let ⟨outbound, liability, .ok txid⟩ ←
      makeTx env 0 outbound uid liability BANK_UID p.debit | do
    sendApi (.paymentResponse { p.response with error := some .transactionFailed })
    return false
  putAccount .bank liability
  insertIntoLedger uid outbound
  updateAccount env outbound uid
  updateAccount env liability BANK_UID
  let .ok _ ← makeSummaryTx env
    { outboundAccount := outbound, outboundUid := uid, inboundAccount := liability,
      inboundUid := BANK_UID, amount := p.totalInBtc, fees := some p.estimatedFeeInBtc,
      outboundTxid := txid, inboundTxid := txid, reference := "ExternalPayment",
      outboundUsername := some (p.outboundUsername ++ "@kollider.xyz"),
      inboundUsername := some p.inboundUsername } | return false
  return true

/-- What the closure of a payment's task captures. -/
def Outgoing.task (p : Outgoing) (estimatedFeeInSats : Decimal) : PaymentTask where
  uid := p.msg.uid
  reqId := p.msg.reqId
  currency := p.msg.currency
  paymentRequest := p.paymentRequest
  amountInSats := p.amountInSats
  amountInBtc := p.amountInBtc
  estimatedFeeInSats
  rate := p.rate
  outboundAmountInBtcPlusMaxFees := p.totalInBtc

def spawnPayment (p : Outgoing) : Handler Unit := do
  let sats ← p.estimatedFeeInBtc.trySats
  let estimatedFeeInSats ← Checked.unwrapOk sats
  modify fun s => { s with paymentThreads := s.paymentThreads ++ [p.task estimatedFeeInSats] }

/-- We need to debit amount a user is trying to send before sending the payment
so he cannot double spend. -/
def payExternally (env : Env) (p : Outgoing) (outbound : Account) : Handler Unit := do
  let liability ← getLiabilityAccount env
  let debited ← (if p.msg.currency ≠ .BTC then debitFiat env p outbound liability
    else debitBtc env p outbound liability)
  if debited then spawnPayment p

/-- If there is an owner we make an internal tx. -/
def payOwner (cfg : Config) (env : Env) (msg : PaymentRequest) (invoice : Invoice) (owner : Int) :
    Handler Unit := do
  let some user := (if env.db .ownerUser then env.directory.userById owner else none) | do
    sendApi (.paymentResponse (msg.refused cfg env .databaseConnectionFailed))
    return
  let .ok _ ← makeInternalTx cfg env { msg with recipient := some user.username } | return
  updateInvoice env (settleInvoice env invoice)
  publishIfZapNote cfg (settleInvoice env invoice) none none (env.now .settled / 1000) true

/-- The stored invoice of a payment request, or a new row without an owner. -/
def findOrInsertInvoice (env : Env) (msg : PaymentRequest) (paymentRequest : String)
    (decoded : Bolt11) (millisats : Nat) : Handler (Option Invoice) := do
  match ← findInvoice env .invoiceGet paymentRequest with
  | some invoice => return some invoice
  | none =>
    let invoice : Invoice :=
      { paymentRequest
        paymentHash := decoded.paymentHash
        createdAt := env.now .invoice
        value := (millisats / 1000 : Nat)
        valueMsat := LndConnector.asI64 millisats
        expiry := decoded.expiryTime
        settled := false
        addIndex := -1
        settledDate := 0
        uid := asI32 msg.uid
        accountId := 0
        owner := none
        fees := none
        incoming := false
        currency := some msg.currency.display
        targetAccountCurrency := none
        reference := none
        description := none }
    let stored ← insertInvoice env invoice
    return if stored then some invoice else none

/-- The fee of the best route and one sat, or the fee margin where the node
knows no route. -/
def estimateFee (cfg : Config) (env : Env) (paymentRequest : String) (amountInBtc : Money) :
    Checked Decimal := do
  let maxFee ← Decimal.mul amountInBtc.value cfg.lnNetworkFeeMargin
  LndConnector.new env.lnd
  match ← LndConnector.probe env.lnd paymentRequest cfg.lnNetworkFeeMargin with
  | .ok (bestRoute :: _) =>
    let sats ← Decimal.add bestRoute.totalFees 1
    Decimal.div sats SATS_IN_BITCOIN
  | _ => return maxFee.roundDpWithStrategy SATS_DECIMALS .awayFromZero

/-- Worst case amount user will have to pay, with the estimated fee: the fee,
the total in bitcoin and the total in outbound currency. -/
def priceOutgoing (cfg : Config) (env : Env) (paymentRequest : String) (amountInBtc : Money)
    (rate : Rate) : Checked (Money × Money × Money) := do
  let fee ← estimateFee cfg env paymentRequest amountInBtc
  let estimatedFeeInBtc := Money.fromBtc fee
  let total ← Decimal.add amountInBtc.value estimatedFeeInBtc.value
  let totalInBtc := Money.fromBtc total
  let exchanged ← totalInBtc.exchange rate
  let debit ← Checked.unwrapOk exchanged
  return (estimatedFeeInBtc, totalInBtc, debit)

/-- The invoice's amount overrides an amount in bitcoin that came with the request. -/
def withInvoiceAmount (msg : PaymentRequest) (amountInBtc : Money) : PaymentRequest :=
  { msg with
    invoiceAmount := some amountInBtc
    amount := msg.amount.map fun a =>
      if a.currency = amountInBtc.currency ∧ a.value ≠ amountInBtc.value
      then a.set amountInBtc.value else a }

/-- The amount of a decoded invoice, in whole sats. -/
def invoiceSats (millisats : UInt64) : Nat := millisats.toNat / 1000

/-- The checks of a request whose rate is known, and its payment. -/
def payPriced (cfg : Config) (env : Env) (msg : PaymentRequest) (paymentRequest : String)
    (decoded : Bolt11) (millisats : UInt64) (outbound : Account)
    (outboundUsername inboundUsername : String) : Handler Unit := do
  let amountInBtc := Money.fromSats (invoiceSats millisats)
  let rate ← Checked.unwrap msg.rate
  -- Amount is aways in outbound currency.
  let exchanged ← amountInBtc.exchange rate
  let amount ← Checked.unwrapOk exchanged
  let msg := { msg with amount := some amount }
  let some invoice ←
    findOrInsertInvoice env msg paymentRequest decoded millisats.toNat | return
  -- Preparing a generic response.
  let response : PaymentResponse :=
    { amount := some amountInBtc
      paymentHash := cfg.uuidText env.hashUuid
      reqId := msg.reqId
      uid := msg.uid
      success := false
      paymentRequest := some paymentRequest
      currency := msg.currency
      fees := some (msg.fees.getD (Money.fromSats 0))
      rate := some rate
      error := none
      paymentPreimage := none
      description := none
      destination := none }
  if invoice.owner.map asU64 = some msg.uid then
    sendApi (.paymentResponse { response with error := some .selfPayment })
    return
  -- If invoice was already paid we reject this the payment request.
  if invoice.settled then
    sendApi (.paymentResponse { response with error := some .invoiceAlreadyPaid })
    return
  let (estimatedFeeInBtc, totalInBtc, debit) ←
    priceOutgoing cfg env paymentRequest amountInBtc rate
  -- Checking whether user has enough funds on their outbound currency account.
  if outbound.balance < debit.value then
    sendApi (.paymentResponse { response with error := some .insufficientFundsForFees })
    return
  match invoice.owner with
  | none =>
    let p : Outgoing :=
      { msg, paymentRequest, outboundUsername, inboundUsername,
        amountInSats := invoiceSats millisats, amountInBtc, estimatedFeeInBtc, rate, totalInBtc,
        debit, response }
    payExternally env p outbound
  | some owner => payOwner cfg env msg invoice owner

/-- A payment by invoice. -/
def payLightning (cfg : Config) (env : Env) (msg : PaymentRequest) (outbound : Account)
    (outboundUsername inboundUsername : String) : Handler Unit := do
  let some paymentRequest := msg.paymentRequest | return
  let some decoded := cfg.parseInvoice paymentRequest | do
    sendApi (.paymentResponse (msg.refused cfg env .invalidInvoice))
    return
  let some millisats := decoded.amountMilliSatoshis | do
    sendApi (.paymentResponse (msg.refused cfg env .zeroAmountInvoice))
    return
  let msg := withInvoiceAmount msg (Money.fromSats (invoiceSats millisats))
  -- If payed from a fiat account we have to get a quote first.
  if msg.currency ≠ .BTC ∧ msg.rate.isNone then
    send (.api (.paymentRequest msg)) .dealer
    return
  let msg := if msg.currency = .BTC then { msg with rate := some (Rate.new .BTC .BTC 1) } else msg
  payPriced cfg env msg paymentRequest decoded millisats outbound outboundUsername inboundUsername

def paymentRequest (cfg : Config) (env : Env) (msg : PaymentRequest) : Handler Unit := do
  let admitted ← checkWithdrawalRequestRateLimit cfg env msg.uid
  if !admitted then
    sendApi (.paymentResponse (msg.refused cfg env .requestLimitExceeded))
    return
  let s ← get
  if !s.ledger.hasUser msg.uid then
    sendApi (.paymentResponse (msg.refused cfg env .userAccountNotFound))
    return
  let outbound ← getDefaultAccount env (.user msg.uid) msg.currency none
  if msg.amount.any (·.value ≤ 0) then
    sendApi (.paymentResponse (msg.refused cfg env .invalidAmount))
    return
  if !env.db .conn then
    sendApi (.paymentResponse (msg.refused cfg env .databaseConnectionFailed))
    return
  let some payer :=
    (if env.db .outboundUser then env.directory.userById (asI32 msg.uid) else none) | return
  match routeRecipient cfg env msg with
  | .user username =>
    let _ ← makeInternalTx cfg env { msg with recipient := some username }
    return
  | .invoice inboundUsername =>
    payLightning cfg env msg outbound payer.username inboundUsername

end BankEngine

/-! ## The result of an external payment -/

/-- What a payment task sends when the connector has answered. -/
def PaymentTask.result (t : PaymentTask) : Except LndConnectorError PayResponse → PaymentResult
  | .ok r =>
    { uid := t.uid
      currency := t.currency
      rate := t.rate
      isSuccess := true
      amount := t.outboundAmountInBtcPlusMaxFees
      paymentResponse :=
        { uid := t.uid
          reqId := t.reqId
          currency := t.currency
          paymentHash := r.paymentHash
          success := true
          paymentRequest := some t.paymentRequest
          amount := some t.amountInBtc
          fees := some (Money.fromSats (LndConnector.asI64 r.fee))
          rate := some t.rate
          error := none
          paymentPreimage := r.preimage
          destination := none
          description := none }
      error := none }
  | .error e =>
    { uid := t.uid
      currency := t.currency
      rate := t.rate
      isSuccess := false
      amount := t.outboundAmountInBtcPlusMaxFees
      paymentResponse :=
        { uid := t.uid
          reqId := t.reqId
          currency := t.currency
          paymentHash := ""
          success := false
          paymentRequest := some t.paymentRequest
          amount := some t.amountInBtc
          fees := some (Money.fromSats 0)
          rate := some t.rate
          error := some .insufficientFundsForFees
          paymentPreimage := none
          destination := none
          description := none }
      error := some e.display }

/-- The body of a payment task; without a connection it panics and sends nothing. -/
def PaymentTask.run (lnd : Lnd) (t : PaymentTask) : Checked PaymentResult := do
  LndConnector.new lnd
  let answer ← LndConnector.payInvoice lnd (some t.paymentRequest) t.amountInSats none
    (some t.estimatedFeeInSats)
  return t.result answer

namespace BankEngine

/-- The part of the estimated fee that was not used goes to the dealer. Did it? -/
def moveExcessFees (env : Env) (excess : Decimal) (liabilities dealerBtc : Account) :
    Handler Bool := do
  if excess ≤ 0 then return true
  let ⟨liabilities, dealerBtc, .ok _⟩ ← makeTx env 0 liabilities BANK_UID dealerBtc DEALER_UID
    (Money.new .BTC excess) | return false
  putAccount .bank liabilities
  putAccount .dealer dealerBtc
  updateAccount env dealerBtc DEALER_UID
  updateAccount env liabilities BANK_UID
  return true

/-- A payment that went through. Is the response to be sent? -/
def settlePayment (env : Env) (res : PaymentResult) (liabilities dealerBtc : Account) :
    Handler Bool := do
  let paymentAmount ← Checked.unwrap res.paymentResponse.amount
  let feesPaid ← Checked.unwrap res.paymentResponse.fees
  let spent ← Decimal.add paymentAmount.value feesPaid.value
  let excess ← Decimal.sub res.amount.value spent
  if excess < 0 then throw .assertion
  let moved ← moveExcessFees env excess liabilities dealerBtc
  if !moved then return false
  let some pr := res.paymentResponse.paymentRequest
    | throw (.explicit "Payment request has not been specified in the payment response")
  let some invoice ← findInvoice env .invoiceGet pr | return false
  let sats ← feesPaid.trySats
  let sats ← Checked.unwrapOk sats
  let fees ← Checked.unwrap (Decimal.toI64 sats)
  updateInvoice env { settleInvoice env invoice with fees := some fees }
  return true

/-- The debit of a fiat payment, reversed. -/
def refundFiat (env : Env) (res : PaymentResult) (refundExchanged : Money)
    (liabilities inbound : Account) : Handler Bool := do
  let uid := res.uid
  let dealerBtc ← getDealerAccount env .BTC .internal
  let dealerFiat ← getDealerAccount env res.currency .internal
  let ⟨liabilities, dealerBtc, .ok outboundTxid⟩ ←
    makeTx env 0 liabilities BANK_UID dealerBtc uid res.amount | return false
  let ⟨dealerFiat, inbound, .ok inboundTxid⟩ ←
    makeTx env 1 dealerFiat DEALER_UID inbound uid refundExchanged | return false
  putAccount .bank liabilities
  putAccount .dealer dealerBtc
  putAccount .dealer dealerFiat
  insertIntoLedger uid inbound
  updateAccount env inbound uid
  updateAccount env liabilities BANK_UID
  updateAccount env dealerBtc DEALER_UID
  updateAccount env dealerFiat DEALER_UID
  let .ok _ ← makeSummaryTx env
    { outboundAccount := liabilities, outboundUid := BANK_UID, inboundAccount := inbound,
      inboundUid := uid, amount := res.amount, rate := some res.rate, outboundTxid, inboundTxid,
      reference := "PaymentRefund" } | return false
  return true

def refundBtc (env : Env) (res : PaymentResult) (liabilities inbound : Account) :
    Handler Bool := do
  let uid := res.uid
  let ⟨liabilities, inbound, .ok txid⟩ ←
    makeTx env 0 liabilities BANK_UID inbound uid res.amount | return false
  putAccount .bank liabilities
  insertIntoLedger uid inbound
  updateAccount env inbound uid
  updateAccount env liabilities BANK_UID
  let .ok _ ← makeSummaryTx env
    { outboundAccount := liabilities, outboundUid := BANK_UID, inboundAccount := inbound,
      inboundUid := uid, amount := res.amount, rate := some res.rate, outboundTxid := txid,
      inboundTxid := txid, reference := "PaymentRefund" } | return false
  return true

/-- A payment that failed. Is the response to be sent? -/
def refundPayment (env : Env) (res : PaymentResult) (liabilities inbound : Account) :
    Handler Bool := do
  let exchanged ← res.amount.exchange res.rate
  let refundExchanged ← Checked.unwrapOk exchanged
  if res.currency ≠ .BTC then refundFiat env res refundExchanged liabilities inbound
  else refundBtc env res liabilities inbound

def paymentResult (env : Env) (res : PaymentResult) : Handler Unit := do
  if res.amount.value ≤ 0 then throw (.explicit "Amount is smaller than zero.")
  if !env.db .conn then return
  let liabilities ← getLiabilityAccount env
  let s ← get
  if !s.ledger.hasUser res.uid then return
  let inbound ← getDefaultAccount env (.user res.uid) res.currency none
  let dealerBtc ← getDealerAccount env .BTC .internal
  let answered ← (if res.isSuccess then settlePayment env res liabilities dealerBtc
    else refundPayment env res liabilities inbound)
  if !answered then return
  sendBankState
  sendApi (.paymentResponse
    { res.paymentResponse with success := res.isSuccess || res.paymentResponse.success })

end BankEngine

end Lndhubx
