import Lndhubx.Bank.Payment

/-!
# Swaps, balances, LNURL withdrawals, karma, DCA and the operator's transfers

The remaining handlers of `bank/src/bank_engine.rs`.

An LNURL withdrawal is created by its owner (`createLnurlWithdrawal`) and paid
by whoever presents its request id and an invoice (`payLnurlWithdrawal`): the
stored payment request, with that invoice in it, is put on the loopback queue
and comes back as an ordinary `PaymentRequest`.

`distributeKarma` walks its totals in the order of the list; the source walks a
`HashMap`, and the order shows in nothing but the order of its database calls.
-/

namespace Lndhubx

/-- The answer to a swap that is not made. -/
def SwapResponse.refused (msg : SwapResponse) (error : SwapResponseError) : SwapResponse :=
  { msg with success := false, error := some error }

/-- The payment request kept for an LNURL withdrawal until an invoice is presented. -/
def CreateLnurlWithdrawalRequest.paymentRequest (msg : CreateLnurlWithdrawalRequest) :
    PaymentRequest where
  uid := msg.uid
  reqId := msg.reqId
  amount := some msg.amount
  invoiceAmount := none
  currency := msg.currency
  rate := msg.rate
  paymentRequest := some ""
  destination := none
  recipient := none
  fees := msg.fees

namespace BankEngine

/-! ## Swaps and balances -/

/-- A swap at the dealer's rate, or the answer why not. -/
def swapResponse (env : Env) (msg : SwapResponse) : Handler Unit := do
  if msg.error.isSome ∨ msg.success = false then
    sendApi (.swapResponse msg)
    return
  let s ← get
  -- Checking whether we can convert into the target curreny.
  if msg.toCurrency ∉ s.availableCurrencies then
    sendApi (.swapResponse (msg.refused .currencyNotAvailable))
    return
  let uid := msg.uid
  let some rate := msg.rate | do
    sendApi (.swapResponse (msg.refused .currencyNotAvailable))
    return
  if !s.ledger.hasUser uid then
    sendApi (.swapResponse (msg.refused .userAccountNotFound))
    return
  let outbound ← getDefaultAccount env (.user uid) msg.fromCurrency none
  let inbound ← getDefaultAccount env (.user uid) msg.toCurrency none
  if outbound.accountId = inbound.accountId then
    sendApi (.swapResponse (msg.refused .invalid))
    return
  let outboundDealer ← getDealerAccount env msg.toCurrency .internal
  let inboundDealer ← getDealerAccount env msg.fromCurrency .internal
  if outbound.balance < msg.amount.value then
    sendApi (.swapResponse (msg.refused .notEnoughAvailableBalance))
    return
  let ⟨outbound, inboundDealer, .ok outboundTxid⟩ ←
      makeTx env 0 outbound uid inboundDealer DEALER_UID msg.amount | do
    sendApi (.swapResponse (msg.refused .transactionFailed))
    return
  let exchanged ← msg.amount.exchange rate
  let inboundAmount ← Checked.unwrapOk exchanged
  let ⟨outboundDealer, inbound, .ok inboundTxid⟩ ←
      makeTx env 1 outboundDealer DEALER_UID inbound uid inboundAmount | do
    sendApi (.swapResponse (msg.refused .transactionFailed))
    return
  insertIntoLedger uid outbound
  insertIntoLedger uid inbound
  putAccount .dealer outboundDealer
  putAccount .dealer inboundDealer
  updateAccount env outbound uid
  updateAccount env inbound uid
  updateAccount env outboundDealer DEALER_UID
  updateAccount env inboundDealer DEALER_UID
  sendApi (.swapResponse msg)
  -- Updating the dealer of the new state of the bank.
  sendBankState
  let _ ← makeSummaryTx env
    { outboundAccount := outbound, outboundUid := uid, inboundAccount := inbound,
      inboundUid := uid, amount := msg.amount, rate := some rate, outboundTxid, inboundTxid,
      reference := "Swap" }
  return

/-- We do this to make sure we initialise an account for each available currency. -/
def openAvailable (env : Env) (uid : UserId) (currencies : List Currency) : Handler Unit :=
  currencies.forM fun c => do
    let _ ← getDefaultAccount env (.user uid) c (some .internal)
    return

/-- The accounts of a user. -/
def getBalances (env : Env) (msg : GetBalances) : Handler Unit := do
  modifyLedger (·.openUser msg.uid)
  let s ← get
  openAvailable env msg.uid s.availableCurrencies
  let s ← get
  let accounts := ((s.ledger.holder (.user msg.uid)).values.filter (·.currency ≠ .KKP)).map
    fun a => (a.accountId, a)
  let balances : Balances := { reqId := msg.reqId, uid := msg.uid, accounts }
  if msg.uid = DEALER_UID then
    send (.api (.balances balances)) .dealer
  else
    send (.api (.balances balances)) .api

/-- What the node says of itself. -/
def getNodeInfo (cfg : Config) (env : Env) (msg : GetNodeInfoRequest) : Handler Unit :=
  sendApi (.getNodeInfoResponse
    { reqId := msg.reqId
      lndNodeInfo := match LndConnector.getNodeInfo env.lnd with
        | .ok info => info
        | .error _ => {}
      lnNetworkFeeMargin := cfg.lnNetworkFeeMargin
      lnNetworkMaxFee := cfg.lnNetworkMaxFee
      internalTxFee := cfg.internalTxFee
      externalTxFee := cfg.externalTxFee
      reserveRatio := cfg.reserveRatio })

/-! ## LNURL withdrawals -/

/-- A withdrawal that a wallet may claim later. -/
def createLnurlWithdrawal (cfg : Config) (env : Env) (msg : CreateLnurlWithdrawalRequest) :
    Handler Unit := do
  let respond (lnurl : Option String) (error : Option CreateLnurlWithdrawalError) : Handler Unit :=
    sendApi (.createLnurlWithdrawalResponse { reqId := msg.reqId, lnurl, error })
  if msg.amount.value ≤ 0 then
    respond none (some .invalidAmount)
    return
  let s ← get
  if !s.ledger.hasUser msg.uid then
    respond none (some .userAccountNotFound)
    return
  let outbound ← getDefaultAccount env (.user msg.uid) msg.currency none
  if msg.currency ≠ .BTC ∧ msg.rate.isNone then
    send (.api (.createLnurlWithdrawalRequest msg)) .dealer
    return
  if outbound.balance < msg.amount.value then
    respond none (some .insufficientFunds)
    return
  let path := "https://" ++ cfg.domain ++ "/api/lnurl_withdrawal/request"
  let some lnurl := cfg.lnurlEncode path (some (cfg.uuidText msg.reqId)) | do
    respond none (some .failedToCreateLnUrl)
    return
  modify fun s => { s with
    lnurlWithdrawalRequests :=
      s.lnurlWithdrawalRequests.insert msg.reqId (env.now .lnurl, msg.paymentRequest) }
  respond (some lnurl) none

/-- An amount at a rate, where there is one. -/
def atRate (amount : Money) : Option Rate → Checked Money
  | some rate => do
    let exchanged ← amount.exchange rate
    Checked.unwrapOk exchanged
  | none => return amount

/-- The most a stored request may be paid out at, in sats. -/
def maxWithdrawable (req : PaymentRequest) : Checked (Option Nat) := do
  let some amount := req.amount | return none
  let amount ← atRate amount req.rate
  let sats ← amount.trySats
  let sats ← Checked.unwrapOk sats
  return Decimal.toU64 sats

/-- What a wallet is told of a withdrawal. -/
def getLnurlWithdrawal (cfg : Config) (msg : GetLnurlWithdrawalRequest) : Handler Unit := do
  let response : GetLnurlWithdrawalResponse :=
    { callback := "https://" ++ cfg.domain ++ "/api/lnurl_withdrawal/pay"
      reqId := msg.reqId
      maxWithdrawable := 0
      defaultDescription := "Lndhubx Withdrawal"
      minWithdrawable := 1
      tag := "withdrawalRequest"
      error := none }
  let notFound : Handler Unit :=
    sendApi (.getLnurlWithdrawalResponse { response with error := some .requestNotFound })
  let s ← get
  match s.lnurlWithdrawalRequests.lookup msg.reqId with
  | none => notFound
  | some (_, req) =>
    match ← maxWithdrawable req with
    | some n => sendApi (.getLnurlWithdrawalResponse { response with maxWithdrawable := n })
    | none => notFound

/-- A claim of a stored withdrawal. -/
def payLnurlWithdrawal (msg : PayLnurlWithdrawalRequest) : Handler Unit := do
  let s ← get
  match s.lnurlWithdrawalRequests.lookup msg.reqId with
  | some (_, req) =>
    set { s with lnurlWithdrawalRequests := s.lnurlWithdrawalRequests.erase msg.reqId }
    send (.api (.paymentRequest { req with paymentRequest := some msg.paymentRequest })) .loopback
  | none =>
    sendApi (.payLnurlWithdrawalResponse { reqId := msg.reqId, error := some .requestNotFound })

/-- What a payment would cost. -/
def queryRoute (cfg : Config) (env : Env) (msg : QueryRouteRequest) : Handler Unit := do
  let respond (totalFee : Decimal) (error : Option QueryRouteError) : Handler Unit :=
    sendApi (.queryRouteResponse { reqId := msg.reqId, totalFee, error })
  LndConnector.new env.lnd
  let some decoded := cfg.parseInvoice msg.paymentRequest | respond 0 (some .noRouteFound)
  let some millisats := decoded.amountMilliSatoshis | respond 0 (some .noRouteFound)
  let amountInBtc := Money.fromSats (invoiceSats millisats)
  let maxFee ← Decimal.mul amountInBtc.value cfg.lnNetworkFeeMargin
  let maxFeeInBtc := Money.fromBtc (maxFee.roundDpWithStrategy SATS_DECIMALS .awayFromZero)
  match ← LndConnector.probe env.lnd msg.paymentRequest cfg.lnNetworkFeeMargin with
  | .ok (bestRoute :: _) => respond bestRoute.totalFees none
  | .ok [] => respond 0 (some .noRouteFound)
  | .error _ =>
    let sats ← maxFeeInBtc.trySats
    let sats ← Checked.unwrapOk sats
    respond sats none

/-! ## Karma -/

/-- What each user traded, in bitcoin. -/
abbrev UserTotals := AList fun _ : UserId => Decimal

/-- The value in bitcoin of one row between two currencies; `none` where a
conversion fails. -/
def btcValue (lastRates : List ((Currency × Currency) × Rate)) (row : SummaryTransaction) :
    Checked (Option Decimal) := do
  let some inboundAmount := Decimal.fromBigDecimal row.inboundAmount | return none
  let some outboundAmount := Decimal.fromBigDecimal row.outboundAmount | return none
  let some inboundCurrency := Currency.fromStr row.inboundCurrency | return none
  let some outboundCurrency := Currency.fromStr row.outboundCurrency | return none
  if outboundCurrency = .BTC then return some outboundAmount
  if inboundCurrency = .BTC then return some inboundAmount
  let some rate := lastRates.lookup (.BTC, outboundCurrency) | return none
  match ← (Money.new outboundCurrency outboundAmount).exchange rate with
  | .ok converted => return some converted.value
  | .error _ => return none

/-- Whose total a row counts for. -/
def swapUser (row : SummaryTransaction) : Option UserId :=
  if row.outboundUid ≠ asI32 BANK_UID then some (asU64 row.outboundUid)
  else if row.inboundUid ≠ asI32 BANK_UID then some (asU64 row.inboundUid)
  else none

/-- One row more in the totals. -/
def addUserTotal (lastRates : List ((Currency × Currency) × Rate)) (totals : Option UserTotals)
    (row : SummaryTransaction) : Checked (Option UserTotals) := do
  let some totals := totals | return none
  let some uid := swapUser row | return some totals
  let some value ← btcValue lastRates row | return none
  let old := (totals.lookup uid).getD 0
  let new ← (if row.reference = some "PaymentRefund" then Decimal.sub old value
    else Decimal.add old value)
  return some (totals.insert uid new)

/-- `get_user_totals`; `none` is an error. -/
def getUserTotals (env : Env) : Handler (Option UserTotals) := do
  if !env.db .conn then return none
  if !env.db .swaps then return none
  let s ← get
  let totals ← (s.db.swaps.foldlM (addUserTotal s.lastRates) (some ∅) :
    Checked (Option UserTotals))
  return totals

/-- One user's part of the karma; what is left of it for the dealer. -/
def distributeKarmaTo (env : Env) (karma : Money) (totalSwapped : Decimal) (dealerChange : Money)
    (entry : UserId × Decimal) : Handler Money := do
  let ratio ← Decimal.div entry.2 totalSwapped
  let part ← Decimal.mulRounded ratio karma.value
  let received := Money.new karma.currency part
  if 0 < received.value then
    let account ← getOrOpenAccount env entry.1 .KKP (some .internal)
    let balance ← Decimal.add account.balance received.value
    insertIntoLedger entry.1 { account with balance }
    updateAccount env { account with balance } entry.1
  let change ← Decimal.sub dealerChange.value received.value
  return dealerChange.set change

/-- A share for each user in the totals. -/
def distributeKarma (env : Env) (karma : Money) (totals : UserTotals) : Handler Unit := do
  let entries := totals.entries.map fun e => (e.1, e.2)
  let totalSwapped ← (entries.foldlM (fun acc e => Decimal.add acc e.2) 0 : Checked Decimal)
  let dealerChange ← entries.foldlM (distributeKarmaTo env karma totalSwapped) karma
  let account ← getDealerAccount env .KKP .internal
  putAccount .dealer { account with balance := dealerChange.value }
  updateAccount env { account with balance := dealerChange.value } DEALER_UID

/-- A new balance of the karma account. -/
def karmaBalance (env : Env) (msg : KarmaBalance) : Handler Unit := do
  let dealerKarma := Money.new .KKP msg.karma
  let bankState ← getBankState
  let distributedKarma := (bankState.totalExposures.lookup .KKP).getD 0
  let some userTotals ← getUserTotals env | return
  let account ← getDealerAccount env .KKP .external
  putAccount .dealer { account with balance := -dealerKarma.value }
  updateAccount env { account with balance := -dealerKarma.value } DEALER_UID
  let diff ← Decimal.sub dealerKarma.value distributedKarma
  let karmaDiff := Money.new .KKP diff
  if 0 < karmaDiff.value then distributeKarma env karmaDiff userTotals

/-! ## DCA -/

/-- The swap request of one setting, the `i`-th of its interval. -/
def dcaSwap (env : Env) (i : Nat) (row : DcaSetting) : Handler Unit := do
  let fromCurrency ← Checked.unwrap (Currency.fromStr row.fromCurrency)
  let toCurrency ← Checked.unwrap (Currency.fromStr row.toCurrency)
  let amount ← Checked.unwrap (Decimal.fromBigDecimal row.amount)
  send (.api (.swapRequest
    { reqId := env.reqUuid i
      uid := asU64 row.uid
      amount := Money.new fromCurrency amount
      fromCurrency
      toCurrency
      quoteId := none })) .loopback

/-- The swaps of an interval that is due. -/
def dcaRebalance (env : Env) (msg : DcaRebalance) : Handler Unit := do
  if !env.db .conn then return
  if !env.db .dca then return
  (env.directory.dcaByInterval msg.intervalName).zipIdx.forM fun e => dcaSwap env e.2 e.1

/-! ## Transfers by the operator -/

/-- Where one side of an operator's transfer is kept. -/
inductive Slot where
  | external
  | insurance
  | user (uid : UserId) (id : AccountId)
  deriving DecidableEq

/-- Is this the bank's external account? -/
def isExternalAccount (env : Env) (uid : UserId) (id : AccountId) : Handler Bool := do
  if uid = BANK_UID then
    let a ← getLiabilityAccount env
    return decide (id = a.accountId)
  else
    return false

/-- The account on one side of an operator's transfer. -/
def readSlot (env : Env) : Slot → Handler (Except BankError Account)
  | .external => do
    let a ← getLiabilityAccount env
    return .ok a
  | .insurance => do
    let s ← get
    return .ok s.ledger.insuranceFundAccount
  | .user uid id => do
    let s ← get
    if !s.ledger.hasUser uid then return .error .userAccountNotFound
    match s.ledger.get (.user uid, id) with
    | some a => return .ok a
    | none => return .error .accountNotFound

/-- Where that account is written back. -/
def writeSlot (a : Account) : Slot → Handler Unit
  | .external => putAccount .bank a
  | .insurance => modifyLedger fun L => { L with insuranceFundAccount := a }
  | .user uid _ => insertIntoLedger uid a

/-- Which of the accounts a transfer means. -/
def slotOf (isExternal isInsurance : Bool) (uid : UserId) (id : AccountId) : Slot :=
  if isExternal then .external else if isInsurance then .insurance else .user uid id

/-- A transfer of the operator. -/
def processMakeTx (env : Env) (tx : MakeTx) : Handler (Except BankError Unit) := do
  if tx.amount < 0 then return .error .failedTransaction
  if tx.outboundUid = tx.inboundUid ∧ tx.outboundAccountId = tx.inboundAccountId then
    return .error .failedTransaction
  let s ← get
  let insuranceId := s.ledger.insuranceFundAccount.accountId
  let isInboundInsurance := decide (tx.inboundUid = DEALER_UID ∧ tx.inboundAccountId = insuranceId)
  let isOutboundInsurance :=
    decide (tx.outboundUid = DEALER_UID ∧ tx.outboundAccountId = insuranceId)
  let isInboundExternal ← isExternalAccount env tx.inboundUid tx.inboundAccountId
  let isOutboundExternal ← isExternalAccount env tx.outboundUid tx.outboundAccountId
  if (isInboundInsurance && !isOutboundExternal) || (isOutboundInsurance && !isInboundExternal) then
    return .error .failedTransaction
  let outboundSlot := slotOf isOutboundExternal isOutboundInsurance tx.outboundUid
    tx.outboundAccountId
  let inboundSlot := slotOf isInboundExternal isInboundInsurance tx.inboundUid tx.inboundAccountId
  match ← readSlot env outboundSlot with
  | .error e => return .error e
  | .ok outbound =>
    match ← readSlot env inboundSlot with
    | .error e => return .error e
    | .ok inbound =>
      if outbound.currency ≠ tx.currency ∨ outbound.currency ≠ inbound.currency then
        return .error .failedTransaction
      match ← makeTx env 0 outbound tx.outboundUid inbound tx.inboundUid
          (Money.new tx.currency tx.amount) with
      | ⟨_, _, .error e⟩ => return .error e
      | ⟨outbound, inbound, .ok _⟩ =>
        updateAccount env outbound tx.outboundUid
        updateAccount env inbound tx.inboundUid
        writeSlot outbound outboundSlot
        writeSlot inbound inboundSlot
        return .ok ()

end BankEngine

end Lndhubx
