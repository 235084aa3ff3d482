import Lndhubx.Kollider
import Lndhubx.Lib.Prog
import Lndhubx.Msgs
import Lndhubx.Nostr
import Mathlib.Data.List.AList

/-!
# The dealer

`dealer/src/dealer_engine.rs`. The dealer keeps an order book for each contract
of the exchange and, beside it, quote tables: for every bucket of `QUANTITIES`
the book can fill, the average price of filling it (`updateQuotes`). A rate is
looked up in these tables (`getRate`, `getRateInv`); requests of users that need
one are forwarded by the bank and answered here (`processMsg`). What the bank's
books say about the fiat exposure is hedged on the exchange
(`checkRiskFromBankState`).

A handler is a program over `DealerState` that may panic. Messages handed to the
listener all go to the bank and are collected in `sent`, requests to the
exchange in `calls`. `last_bank_state_timestamp`, `hedged_qtys` and `_positions`
are written and never read, and are left out.
-/

namespace Lndhubx

/-- How long a quote is kept. -/
def QUOTE_TTL_MS : Nat := 5000

/-- The settings a running dealer reads. `maxSingleOrderQuantities` is keyed by
the contract's name in lower case. -/
structure DealerConfig where
  riskTolerances : Currency → Option Nat
  positionMinLeverage : Decimal
  positionMaxLeverage : Decimal
  leverageCheckIntervalMs : Nat
  spread : Decimal
  maxSingleOrderQuantities : String → Option Nat

/-- What the dealer finds outside itself during one call: the exchange, the
system clock in microseconds since the epoch, the monotonic clock in
milliseconds and the UUID it draws. -/
structure DealerEnv where
  ws : WsClient
  now : Nat
  instant : Int
  newV4 : Uuid

/-- The quotes of one contract on one side, by quantity. -/
abbrev QuoteTable := Std.ExtTreeMap Nat Decimal compare

/-- What the dealer knows of the market and the bank, and what it has sent. -/
structure DealerState where
  level2Data : AList fun _ : Symbol => Level2State
  bidQuotes : AList fun _ : Symbol => QuoteTable
  askQuotes : AList fun _ : Symbol => QuoteTable
  guaranteedQuotes : Std.ExtTreeMap Nat QuoteResponse compare
  hasReceivedInitData : Bool
  hasReceivedSymbols : Bool
  hasReceivedPositions : Bool
  isKolliderAuthenticated : Bool
  lastBankState : Option BankState
  lastLeverageCheckTimestamp : Int
  fundingProfit : Decimal
  sent : List Message
  calls : List WsCall

/-- `DealerEngine::new`: the first report of a position is always acted on. -/
def DealerState.new (cfg : DealerConfig) (env : DealerEnv) (initialFundingPnl : Decimal) :
    DealerState where
  level2Data := ∅
  bidQuotes := ∅
  askQuotes := ∅
  guaranteedQuotes := ∅
  hasReceivedInitData := false
  hasReceivedSymbols := false
  hasReceivedPositions := false
  isKolliderAuthenticated := false
  lastBankState := none
  lastLeverageCheckTimestamp := env.instant - (cfg.leverageCheckIntervalMs + 1)
  fundingProfit := initialFundingPnl
  sent := []
  calls := []

/-- A handler of the dealer. -/
abbrev DealerHandler : Type → Type := Prog DealerState Panic

namespace DealerEngine

/-- The initial data is there. -/
def isReady (s : DealerState) : Bool := s.hasReceivedInitData

def hasBankState (s : DealerState) : Bool := s.lastBankState.isSome

/-- A message to the bank. -/
def listener (msg : Message) : DealerHandler Unit :=
  modify fun s => { s with sent := s.sent ++ [msg] }

/-- A request to the exchange; was it sent? -/
def ask (env : DealerEnv) (call : WsCall) : DealerHandler Bool := do
  if env.ws.sends call then
    modify fun s => { s with calls := s.calls ++ [call] }
    return true
  else
    return false

def checkHasReceivedInitialData : DealerHandler Unit :=
  modify fun s => { s with
    hasReceivedInitData :=
      s.hasReceivedPositions && s.hasReceivedSymbols && s.isKolliderAuthenticated }

/-! ## Quotes from the order book -/

variable [Rounding]

/-- The sizes that are quoted. -/
def QUANTITIES : List Nat := [10, 100, 1000, 2000, 3000, 5000, 10000, 100000, 1000000]

/-- How far one side of the book has been consumed: what is left of the level
in hand and its price, what was taken so far and at what cost, and the levels
still to come. -/
structure Fill where
  quantityAtLevel : Nat
  priceAtLevel : Scaled
  quantitySoFar : Nat
  num : Scaled
  levels : List (Scaled × Nat)

/-- A walk through a side begins with nothing taken. -/
def Fill.start (levels : List (Scaled × Nat)) : Fill := ⟨0, .ofNat 0, 0, .ofNat 0, levels⟩

/-- A quantity taken at the price in hand. -/
def Fill.take (f : Fill) (quantity : Nat) : Checked Fill := do
  let cost ← f.priceAtLevel.mul (.ofNat quantity)
  let num ← f.num.add cost
  return { f with
    quantityAtLevel := f.quantityAtLevel - quantity
    quantitySoFar := f.quantitySoFar + quantity
    num }

/-- One turn of the inner loop: the level in hand covers what is to be matched,
or all of it is taken and something is left to match. -/
def Fill.turn (f : Fill) (toMatch : Nat) : Checked (Fill × Nat) := do
  if toMatch ≤ f.quantityAtLevel then
    return (← f.take toMatch, 0)
  else
    return (← f.take f.quantityAtLevel, toMatch - f.quantityAtLevel)

/-- The inner loop: take `toMatch`, level by level; what could not be matched
is returned too. Where the book runs out the loop breaks. -/
def matchLevels (toMatch : Nat) (f : Fill) : List (Scaled × Nat) → Checked (Fill × Nat)
  | [] => do
    let (f, left) ← f.turn toMatch
    if left = 0 then return ({ f with levels := [] }, 0)
    else return ({ f with priceAtLevel := .ofNat 0, quantityAtLevel := 0, levels := [] }, left)
  | (price, volume) :: rest => do
    let (f, left) ← f.turn toMatch
    if left = 0 then return ({ f with levels := (price, volume) :: rest }, 0)
    else matchLevels left { f with priceAtLevel := price, quantityAtLevel := volume } rest

/-- A difference of `u64`s. -/
def subU64 (a b : Nat) : Checked Nat := if b ≤ a then .ok (a - b) else .error .overflow

/-- The outer loop over the buckets, on one side: a bucket that was filled has
the average price as its quote. The two sides share nothing, so one follows the
other here. -/
def bucketQuotes (round : Scaled → Scaled) (dp : Nat) (f : Fill) :
    List Nat → Checked (List (Nat × Decimal))
  | [] => return []
  | qty :: rest => do
    let toMatch ← subU64 qty f.quantitySoFar
    let (f, left) ← (if toMatch = 0 then return (f, 0) else matchLevels toMatch f f.levels)
    if left = 0 then
      let average ← f.num.divNat f.quantitySoFar
      let price ← (round average).setScale dp
      let quotes ← bucketQuotes round dp f rest
      return (qty, price.value) :: quotes
    else
      bucketQuotes round dp f rest

/-- The quotes of the bid side, from the highest bid down. -/
def bidSideQuotes (dp : Nat) (bids : BookSide) : Checked (List (Nat × Decimal)) :=
  bucketQuotes .ceil dp (.start bids.levels.reverse) QUANTITIES

/-- The quotes of the ask side, from the lowest ask up. -/
def askSideQuotes (dp : Nat) (asks : BookSide) : Checked (List (Nat × Decimal)) :=
  bucketQuotes .floor dp (.start asks.levels) QUANTITIES

/-- `tables.entry(symbol).or_default().insert(qty, price)` for each quote. -/
def storeQuotes (tables : AList fun _ : Symbol => QuoteTable) (symbol : Symbol)
    (quotes : List (Nat × Decimal)) : AList fun _ : Symbol => QuoteTable :=
  quotes.foldl (fun tables e =>
    tables.insert symbol (((tables.lookup symbol).getD ∅).insert e.1 e.2)) tables

/-- The two tables of a contract, from its book. -/
def updateQuotes (ws : WsClient) (symbol : Symbol) : DealerHandler Unit := do
  let some contract := ws.tradableSymbols.lookup symbol | return
  let s ← get
  let some book := s.level2Data.lookup symbol | return
  let bids ← bidSideQuotes contract.priceDp book.bids
  let asks ← askSideQuotes contract.priceDp book.asks
  set { s with
    bidQuotes := storeQuotes s.bidQuotes symbol bids
    askQuotes := storeQuotes s.askQuotes symbol asks }

/-- The book after an update; deltas of an unknown book are dropped. -/
def updateBook (books : AList fun _ : Symbol => Level2State) (update : Level2State) :
    Checked (AList fun _ : Symbol => Level2State) :=
  if update.updateType = "snapshot" then return books.insert update.symbol update
  else if update.updateType = "delta" then
    match books.lookup update.symbol with
    | some book => return books.insert update.symbol { book with
        bids := book.bids.applyAll update.bids
        asks := book.asks.applyAll update.asks }
    | none => return books
  else throw (.explicit "Unsupported level2 update")

/-- The book is updated, and then its quotes. -/
def processOrderbookUpdate (ws : WsClient) (update : Level2State) : DealerHandler Unit := do
  let s ← get
  let level2Data ← updateBook s.level2Data update
  set { s with level2Data }
  updateQuotes ws update.symbol

/-! ## Rates -/

/-- `quotes.range(lookup..u64::MAX).next()`. -/
def firstFrom (quotes : QuoteTable) (lookup : Nat) : Option (Nat × Decimal) :=
  quotes.toList.find? fun e => lookup ≤ e.1 ∧ e.1 < 2 ^ 64 - 1

/-- Half of the spread goes to each side. -/
def getHalfSpread (cfg : DealerConfig) : Checked Decimal := Decimal.div cfg.spread 2

/-- What a price is multiplied by. -/
def getLinearModifier (cfg : DealerConfig) : Checked Decimal := do
  Decimal.sub 1 (← getHalfSpread cfg)

/-- What a price is multiplied by before it is inverted. -/
def getInverseModifier (cfg : DealerConfig) : Checked Decimal := do
  Decimal.add 1 (← getHalfSpread cfg)

/-- The rate from a price, with the spread taken off. -/
def getLinearRate (cfg : DealerConfig) (price : Decimal) (chargeSpread : Bool) :
    Checked Decimal := do
  let modifier ← (if chargeSpread then getLinearModifier cfg else return 1)
  Decimal.mul price modifier

/-- The rate from the inverse of a price, likewise. -/
def getInverseRate (cfg : DealerConfig) (price : Decimal) (chargeSpread : Bool) :
    Checked Decimal := do
  let modifier ← (if chargeSpread then getInverseModifier cfg else return 1)
  Decimal.div 1 (← Decimal.mul price modifier)

/-- A rate and the fees in it, if there is a price. -/
abbrev Quoted := Option Rate × Option Money

/-- The rate at a price of the table. Fees are paid in the target currency. -/
def rateAt (cfg : DealerConfig) (conversion : ConversionInfo) (price valueInFiat : Decimal)
    (chargeSpread : Bool) : Checked Quoted := do
  if conversion.isLinear then
    let userRate ← getLinearRate cfg price chargeSpread
    let value ← Decimal.mulRounded (← Decimal.div (← Decimal.sub price userRate) price) valueInFiat
    let fees := Money.new conversion.toCurrency value
    let rate := Rate.new conversion.fromCurrency conversion.toCurrency userRate
    return (some rate, some fees)
  else
    let noFeeInverseRate ← Decimal.div 1 price
    let userInverseRate ← getInverseRate cfg price chargeSpread
    let rate := Rate.new conversion.fromCurrency conversion.toCurrency userInverseRate
    let value ← Decimal.mulRounded
      (← Decimal.div (← Decimal.sub noFeeInverseRate userInverseRate) noFeeInverseRate)
      (← Decimal.div valueInFiat price)
    let fees := Money.new conversion.toCurrency value
    return (some rate, some fees)

/-- The rate of the first bucket that holds the value, if one does. -/
def rateFor (cfg : DealerConfig) (quotes : QuoteTable) (conversion : ConversionInfo)
    (valueInFiat : Decimal) (chargeSpread : Bool) : Checked Quoted := do
  let some lookupQuantity := valueInFiat.toU64 | return (none, none)
  let some (_, price) := firstFrom quotes lookupQuantity | return (none, none)
  rateAt cfg conversion price valueInFiat chargeSpread

/-- The table a conversion is priced by. -/
def quotesFor (s : DealerState) (conversion : ConversionInfo) : Option QuoteTable :=
  match conversion.side with
  | .bid => s.askQuotes.lookup conversion.symbol
  | .ask => s.bidQuotes.lookup conversion.symbol

/-- The rate between bitcoin and another currency for an amount, and its fee. -/
def getBtcCrossRate (cfg : DealerConfig) (s : DealerState) (amount : Money)
    (conversion : ConversionInfo) (chargeSpread : Bool) : Checked Quoted := do
  let some quotes := quotesFor s conversion | return (none, none)
  if conversion.fromCurrency ≠ conversion.quote then
    let some (_, bestPrice) := firstFrom quotes 0 | return (none, none)
    let valueInFiat ← Decimal.mul amount.value bestPrice
    rateFor cfg quotes conversion valueInFiat chargeSpread
  else
    let valueInFiat ← Decimal.mul amount.value 1
    rateFor cfg quotes conversion valueInFiat chargeSpread

/-- The rate of a conversion at the bucket of the amount as it stands. -/
def getRateInv (cfg : DealerConfig) (s : DealerState) (amount : Money)
    (conversion : ConversionInfo) : Checked Quoted := do
  let some quotes := quotesFor s conversion | return (none, none)
  let valueInFiat := amount.value.roundDpWithStrategy 0 .awayFromZero
  rateFor cfg quotes conversion valueInFiat true

/-- The rate into a currency, by way of bitcoin between two others. -/
def getRate (cfg : DealerConfig) (s : DealerState) (amount : Money)
    (destinationCurrency : Currency) : Checked Quoted := do
  if amount.currency = .BTC ∨ destinationCurrency = .BTC then
    let conversion ← ConversionInfo.new amount.currency destinationCurrency
    getBtcCrossRate cfg s amount conversion true
  else
    let firstConversion ← ConversionInfo.new amount.currency .BTC
    let (some toBtcRate, _) ← getBtcCrossRate cfg s amount firstConversion false
      | return (none, none)
    let convertedMoney := Money.new .BTC (← Decimal.mul amount.value toBtcRate.value)
    let secondConversion ← ConversionInfo.new .BTC destinationCurrency
    let (some toTargetRate, secondFee) ← getBtcCrossRate cfg s convertedMoney secondConversion true
      | return (none, none)
    let finalRate := Rate.new amount.currency destinationCurrency
      (← Decimal.mul toBtcRate.value toTargetRate.value)
    return (some finalRate, secondFee)

end DealerEngine

end Lndhubx
