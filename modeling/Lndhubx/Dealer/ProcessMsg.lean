import Lndhubx.Dealer.Engine
import Lndhubx.Lib.Trace

/-!
# The dealer's message handler

`DealerEngine::process_msg`. What it is given is a message of the bank, which
may be a user's request that needs a rate, or a report of the exchange
(`DealerInput`). `check_health` and `sweep_excess_funds`, which the dealer's loop
calls from time to time, only read the state and send, and are left out.
-/

namespace Lndhubx

/-- A message of the bank, or `Message::KolliderApiResponse`. -/
inductive DealerInput where
  | bank (msg : Message)
  | kollider (msg : KolliderApiResponse)

namespace DealerEngine

/-! ## Users' requests -/

def validateQuote (quote : QuoteResponse) (req : SwapRequest) : Bool :=
  quote.fromCurrency = req.fromCurrency ∧ quote.toCurrency = req.toCurrency ∧
    quote.amount.value = req.amount.value ∧ quote.uid = req.uid

def getBetterRate (rate1 rate2 : Option Rate) (isLinear : Bool) : Option Rate :=
  match rate1, rate2 with
  | some r1, some r2 =>
    if isLinear then (if r2.value < r1.value then some r1 else some r2)
    else if r1.value < r2.value then some r1 else some r2
  | some r1, none => some r1
  | none, some r2 => some r2
  | none, none => none

def swapRequest (cfg : DealerConfig) (env : DealerEnv) (req : SwapRequest) :
    DealerHandler Unit := do
  let response : SwapResponse :=
    { reqId := req.reqId
      uid := req.uid
      success := true
      amount := req.amount
      fromCurrency := req.fromCurrency
      toCurrency := req.toCurrency
      rate := none
      error := none
      fees := none }
  let refuse (error : SwapResponseError) : DealerHandler Unit :=
    listener (.api (.swapResponse { response with success := false, error := some error }))
  if req.fromCurrency = req.toCurrency then
    refuse .invalid
    return
  if env.now < QUOTE_TTL_MS * 1000 then
    throw (.explicit "System time should not be set to earlier than epoch start")
  let invalidatedQuotes := env.now - QUOTE_TTL_MS * 1000
  modify fun s => { s with
    guaranteedQuotes := s.guaranteedQuotes.filter fun id _ => invalidatedQuotes ≤ id }
  let isLinear ← (if req.fromCurrency = .BTC ∨ req.toCurrency = .BTC then do
      let conversion ← ConversionInfo.new req.fromCurrency req.toCurrency
      return conversion.isLinear
    else return true : Checked Bool)
  let s ← get
  let (currentRate, fees) ← getRate cfg s req.amount req.toCurrency
  match req.quoteId with
  | none =>
    if currentRate.isSome then
      listener (.api (.swapResponse { response with rate := currentRate, fees }))
    else
      refuse .currencyNotAvailable
  | some quoteId =>
    match s.guaranteedQuotes[quoteId]? with
    | none => refuse .invalidQuoteId
    | some quote =>
      set { s with guaranteedQuotes := s.guaranteedQuotes.erase quoteId }
      if validateQuote quote req then
        let bestRate := getBetterRate quote.rate currentRate isLinear
        let bestFees := if bestRate = quote.rate then quote.fees else fees
        listener (.api (.swapResponse { response with rate := bestRate, fees := bestFees }))
      else
        refuse .invalidQuoteId

def quoteRequest (cfg : DealerConfig) (env : DealerEnv) (req : QuoteRequest) :
    DealerHandler Unit := do
  let response : QuoteResponse :=
    { reqId := req.reqId
      uid := req.uid
      amount := req.amount
      fromCurrency := req.fromCurrency
      toCurrency := req.toCurrency
      validUntil := 0
      rate := none
      quoteId := none
      error := none
      fees := none }
  let s ← get
  let (rate, fees) ← getRate cfg s req.amount req.toCurrency
  if rate.isSome then
    let response := { response with
      quoteId := some env.now
      rate
      validUntil := (env.now + QUOTE_TTL_MS * 1000) / 1000
      fees }
    set { s with guaranteedQuotes := s.guaranteedQuotes.insert env.now response }
    listener (.api (.quoteResponse response))
  else
    listener (.api (.quoteResponse { response with error := some .currencyNotAvailable }))

/-- `get_base_currency_from_symbol`, of a name in ASCII. -/
def getBaseCurrencyFromSymbol (symbol : Symbol) : Checked (Option Currency) :=
  if symbol.length < 6 then throw (.explicit "byte index out of bounds")
  else return Currency.fromStr (String.ofList ((symbol.toList.drop 3).take 3))

def availableCurrenciesRequest (env : DealerEnv) (req : AvailableCurrenciesRequest) :
    DealerHandler Unit := do
  let bases ← (env.ws.tradableSymbols.mapM fun e => getBaseCurrencyFromSymbol e.1 :
    Checked (List (Option Currency)))
  let currencies := bases.reduceOption.dedup ++ [.BTC]
  listener (.api (.availableCurrenciesResponse { reqId := req.reqId, currencies, error := none }))

def invoiceRequest (cfg : DealerConfig) (req : InvoiceRequest) : DealerHandler Unit := do
  let conversion ← ConversionInfo.new .BTC req.currency
  let s ← get
  -- We assume user specifies the value not the amount.
  let (rate, fees) ← getRateInv cfg s req.amount conversion
  listener (.api (.invoiceResponse
    { rate
      amount := req.amount
      reqId := req.reqId
      uid := req.uid
      metadata := req.metadata
      «meta» := req.meta
      currency := req.currency
      targetAccountCurrency := req.targetAccountCurrency
      paymentRequest := none
      paymentHash := none
      accountId := none
      error := if rate.isNone then some .rateNotAvailable else none
      fees := if rate.isNone then none else fees }))

/-- Without a rate, or without an amount, nothing is sent. -/
def paymentRequest (cfg : DealerConfig) (msg : PaymentRequest) : DealerHandler Unit := do
  let conversion ← ConversionInfo.new msg.currency .BTC
  let some amount := msg.invoiceAmount | return
  let s ← get
  let (rate, fees) ← getRateInv cfg s amount conversion
  if rate.isNone then return
  listener (.api (.paymentRequest { msg with rate, fees }))

def createLnurlWithdrawalRequest (cfg : DealerConfig) (msg : CreateLnurlWithdrawalRequest) :
    DealerHandler Unit := do
  let conversion ← ConversionInfo.new msg.currency .BTC
  let s ← get
  let (rate, fees) ← getRateInv cfg s msg.amount conversion
  if rate.isNone then return
  listener (.api (.createLnurlWithdrawalRequest { msg with rate, fees }))

/-- The answer to a conversion at a rate. -/
def fiatDepositRequest (rate : Option Rate) (fees : Option Money)
    (req : FiatDepositRequest) : FiatDepositResponse where
  reqId := req.reqId
  uid := req.uid
  amount := req.amount
  currency := req.currency
  paymentRequest := req.paymentRequest
  rate := rate
  error := if rate.isNone then some .currencyNotAvailable else none
  fees := if rate.isNone then none else fees

def processFiatDepositRequest (cfg : DealerConfig) (msg : FiatDepositRequest) :
    DealerHandler Unit := do
  let conversion ← ConversionInfo.new .BTC msg.currency
  let s ← get
  let (rate, fees) ← getRateInv cfg s msg.amount conversion
  listener (.dealer (.fiatDepositResponse (fiatDepositRequest rate fees msg)))

def processApi (cfg : DealerConfig) (env : DealerEnv) : Api → DealerHandler Unit
  | .swapRequest msg => swapRequest cfg env msg
  | .quoteRequest msg => quoteRequest cfg env msg
  | .availableCurrenciesRequest msg => availableCurrenciesRequest env msg
  | .invoiceRequest msg => invoiceRequest cfg msg
  | .paymentRequest msg => paymentRequest cfg msg
  | .createLnurlWithdrawalRequest msg => createLnurlWithdrawalRequest cfg msg
  | _ => return

/-! ## Hedging -/

/-- We always round up. -/
def calcNumContractsForValue (value : Decimal) : Decimal :=
  if 0 < value then value.roundDpWithStrategy 0 .awayFromZero
  else value.roundDpWithStrategy 0 .toZero

/-- The position, with the sign of its side. -/
def hedgedQuantity : Option PositionState → Checked Decimal
  | some { side := some side, quantity, .. } => Decimal.mul side.toSign quantity
  | _ => return 0

/-- One account of the bank's state: if the position is too far from what it
should be, an order brings it closer. -/
def hedge (cfg : DealerConfig) (env : DealerEnv) (account : Account) : DealerHandler Unit := do
  if account.currency = .BTC ∨ account.currency = .KKP then return
  let symbol ← account.currency.symbol
  let required := calcNumContractsForValue account.balance
  let .ok position := env.ws.positionState symbol | return
  let hedged ← hedgedQuantity position
  let deltaQty ← Decimal.sub required hedged
  let some tolerance := cfg.riskTolerances account.currency | return
  if |deltaQty| < ((tolerance : Int).bmod (2 ^ 64) : Int) then return
  let some converted := deltaQty.toI64
    | throw (.explicit "Could not convert delta quantity into i64")
  let orderQuantity := match cfg.maxSingleOrderQuantities symbol.toLower with
    | some cap => if cap < converted.natAbs then cap else converted.natAbs
    | none => converted.natAbs
  let sent ← ask env (.makeOrder orderQuantity symbol (Side.fromSign converted))
  if !sent then throw (.explicit "Failed to create order")

def checkRiskFromBankState (cfg : DealerConfig) (env : DealerEnv) (bankState : BankState) :
    DealerHandler Unit := do
  let s ← get
  if !s.hasReceivedInitData then return
  bankState.fiatExposures.forM fun e => hedge cfg env e.2

def checkRisk (cfg : DealerConfig) (env : DealerEnv) : DealerHandler Unit := do
  let s ← get
  match s.lastBankState with
  | some bankState => checkRiskFromBankState cfg env bankState
  | none => return

def maintainLeverage (cfg : DealerConfig) (env : DealerEnv) (position : PositionState) :
    DealerHandler Unit := do
  let s ← get
  if env.instant - s.lastLeverageCheckTimestamp ≤ cfg.leverageCheckIntervalMs then return
  set { s with lastLeverageCheckTimestamp := env.instant }
  if cfg.positionMinLeverage ≤ position.leverage ∧ position.leverage ≤ cfg.positionMaxLeverage then
    return
  let currentMargin ← Decimal.div position.entryValue position.leverage
  let requiredMargin ← Decimal.div position.entryValue 1
  let marginDelta ← Decimal.sub requiredMargin currentMargin
  if marginDelta ≠ 0 then
    match marginDelta.toI64 with
    | some amount => let _ ← ask env (.changeMargin position.symbol amount)
    | none => return

/-! ## Reports of the exchange -/

def resetState : DealerHandler Unit :=
  modify fun s => { s with
    level2Data := ∅
    bidQuotes := ∅
    askQuotes := ∅
    hasReceivedInitData := false
    hasReceivedSymbols := false
    hasReceivedPositions := false
    isKolliderAuthenticated := false
    guaranteedQuotes := ∅
    lastBankState := none }

/-- Subscriptions to the exchange's channels change nothing here, whether they
succeed or not, and are left out. -/
def processKollider (cfg : DealerConfig) (env : DealerEnv) :
    KolliderApiResponse → DealerHandler Unit
  | .disconnected => resetState
  | .authenticate message => do
    if message = "success" then
      modify fun s => { s with isKolliderAuthenticated := true }
      checkHasReceivedInitialData
  | .orderInvoice invoice =>
    listener (.dealer (.payInvoice { reqId := env.newV4, paymentRequest := invoice }))
  | .settlementRequest req =>
    match parseU64 req.amount with
    | some amount => listener (.dealer (.createInvoiceRequest
        { reqId := env.newV4, amount, memo := "Withdrawal upon settlement on " ++ req.symbol }))
    | none => throw (.explicit "Received a settlement request with incorrect amount")
  | .positions _ => do
    modify fun s => { s with hasReceivedPositions := true }
    checkHasReceivedInitialData
  | .positionStates position => maintainLeverage cfg env position
  | .level2State update => processOrderbookUpdate env.ws update
  | .tradableSymbols _ => do
    modify fun s => { s with hasReceivedSymbols := true }
    checkHasReceivedInitialData
  | .changeMarginSuccess msg =>
    if msg.amount < 0 then
      match (-msg.amount).toU64 with
      | some amount => listener (.dealer (.createInsuranceInvoiceRequest
          { reqId := env.newV4
            amount
            memo := "Reduced " ++ msg.symbol ++ " position margin" }))
      | none => throw (.explicit "Received change margin success message with incorrect amount")
    else return
  | .addMarginRequest invoice =>
    listener (.dealer (.payInsuranceInvoice { reqId := env.newV4, paymentRequest := invoice }))
  | .fundingPayment amount => do
    let s ← get
    let fundingProfit ← Decimal.add s.fundingProfit amount
    set { s with fundingProfit }
  | .balances cash =>
    listener (.dealer (.karmaBalance { karma := (cash.lookup "KKP").getD 0 }))
  | .reconnected => return
  | .logged => return

def processMsg (cfg : DealerConfig) (env : DealerEnv) : DealerInput → DealerHandler Unit
  | .bank (.api msg) => processApi cfg env msg
  | .bank (.dealer (.bankState msg)) => do
    modify fun s => { s with lastBankState := some msg }
    checkRiskFromBankState cfg env msg
  | .bank (.dealer (.createInvoiceResponse msg)) => do
    let sent ← ask env (.makeWithdrawal msg.amount msg.paymentRequest)
    if !sent then throw (.explicit "Failed to make a withdrawal")
  | .bank (.dealer (.fiatDepositRequest msg)) => processFiatDepositRequest cfg msg
  | .bank _ => return
  | .kollider msg => processKollider cfg env msg

end DealerEngine

/-! ## Runs -/

structure DealerDelivery where
  env : DealerEnv
  input : DealerInput

/-- The state after a message, if its handler returns. -/
def DealerEngine.deliver (cfg : DealerConfig) (d : DealerDelivery) (s : DealerState) :
    Checked DealerState :=
  match processMsg cfg d.env d.input s with
  | .ok (_, s') => .ok s'
  | .error e => .error e

/-- A message that the dealer handled to its end. -/
def DealerDelivers (cfg : DealerConfig) (s : DealerState) (d : DealerDelivery) (s' : DealerState) :
    Prop := DealerEngine.deliver cfg d s = .ok s'

/-- A run of the dealer: any sequence of handled messages. -/
abbrev DealerRun (cfg : DealerConfig) : DealerState → List DealerDelivery → DealerState → Prop :=
  Trace (DealerDelivers cfg)

theorem dealerDelivers_iff {cfg : DealerConfig} {s s' : DealerState} {d : DealerDelivery} :
    DealerDelivers cfg s d s' ↔
      DealerEngine.processMsg cfg d.env d.input s = .ok ((), s') := by
  unfold DealerDelivers DealerEngine.deliver
  cases DealerEngine.processMsg cfg d.env d.input s with
  | error e => simp
  | ok r => simp [Prod.ext_iff]

/-- What holds of the state a message leads to holds of some step. -/
theorem exists_dealerDelivers (cfg : DealerConfig) (d : DealerDelivery) (s : DealerState)
    (P : DealerState → Prop) [DecidablePred P]
    (h : (DealerEngine.deliver cfg d s).toOption.any (fun s' => decide (P s')) = true) :
    ∃ s', DealerDelivers cfg s d s' ∧ P s' := by
  cases hr : DealerEngine.deliver cfg d s with
  | error e =>
    rw [hr] at h
    exact absurd h (by simp [Except.toOption])
  | ok s' =>
    rw [hr] at h
    exact ⟨s', hr, by simpa [Except.toOption] using h⟩

/-- And likewise of the state a sequence of messages leads to. -/
theorem exists_dealerRun (cfg : DealerConfig) (ds : List DealerDelivery) (s : DealerState)
    (P : DealerState → Prop) [DecidablePred P]
    (h : (ds.foldlM (fun s d => DealerEngine.deliver cfg d s) s).toOption.any
      (fun s' => decide (P s')) = true) : ∃ s', DealerRun cfg s ds s' ∧ P s' := by
  cases hr : ds.foldlM (fun s d => DealerEngine.deliver cfg d s) s with
  | error e =>
    rw [hr] at h
    exact absurd h (by simp [Except.toOption])
  | ok s' =>
    rw [hr] at h
    exact ⟨s', Trace.iff_foldlM.mpr hr, by simpa [Except.toOption] using h⟩

namespace Sample

def dealerConfig : DealerConfig where
  riskTolerances := fun _ => none
  positionMinLeverage := 1
  positionMaxLeverage := 2
  leverageCheckIntervalMs := 1000
  spread := 1 / 100
  maxSingleOrderQuantities := fun _ => none

def usdSymbol : Symbol := "BTCUSD.PERP"

/-- Bitcoin is traded for dollars, with prices in whole dollars. -/
def dealerEnv (now : Nat) : DealerEnv where
  ws := ⟨[(usdSymbol, ⟨0⟩)], fun _ => .error .positionStateNotAvailable, fun _ => true⟩
  now
  instant := now
  newV4 := 0

def dealer : DealerState := .new dealerConfig (dealerEnv 0) 0

/-- A side of the book with one price. -/
def oneLevel (price : Decimal) (volume : Nat) : BookSide :=
  Std.ExtTreeMap.empty.insert price ⟨0, volume⟩

/-- A report of the dollar book, with one price on each side. -/
def dollarBook (updateType : String) (bid ask : Decimal) (volume : Nat) : DealerInput :=
  .kollider (.level2State ⟨updateType, usdSymbol, oneLevel bid volume, oneLevel ask volume⟩)

end Sample

end Lndhubx
