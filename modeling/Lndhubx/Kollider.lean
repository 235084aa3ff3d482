import Lndhubx.Core.Scaled
import Lndhubx.Core.Types
import Mathlib.Data.List.AList
import Std.Data.ExtTreeMap

/-!
# The exchange

`msgs/src/kollider_client.rs`, `core_types/src/kollider_client.rs` and
`ws_client/src/lib.rs`: what the exchange reports to the dealer, and what the
dealer can ask the websocket client for. Of the exchange's records the fields
are kept that the dealer reads.

A `HashMap` is an `AList`, a `BTreeMap` an `ExtTreeMap`. A side of an order book is keyed
by the value of its prices; the scale a price was first written at stays with its level,
as `BTreeMap::insert` keeps the key it finds.
-/

namespace Lndhubx

/-- One price of an order book: the scale it is written at, and its volume. -/
structure Level where
  scale : Nat
  volume : Nat
  deriving DecidableEq

/-- `BTreeMap<Decimal, u64>`. -/
abbrev BookSide := Std.ExtTreeMap Decimal Level compare

namespace BookSide

instance transCmp : Std.TransCmp (compare : Decimal → Decimal → Ordering) := inferInstance

/-- The prices in ascending order, with their volumes. -/
def levels (b : BookSide) : List (Scaled × Nat) :=
  b.toList.map fun e => (⟨e.1, e.2.scale⟩, e.2.volume)

/-- One level of a delta: a volume of nothing removes it. -/
def apply (b : BookSide) (price : Decimal) (l : Level) : BookSide :=
  if l.volume = 0 then b.erase price
  else b.insert price { l with scale := (b[price]?.map (·.scale)).getD l.scale }

def applyAll (b delta : BookSide) : BookSide :=
  delta.toList.foldl (fun b e => b.apply e.1 e.2) b

end BookSide

structure Level2State where
  updateType : String
  symbol : Symbol
  bids : BookSide
  asks : BookSide

structure TradableSymbol where
  priceDp : Nat

structure PositionState where
  symbol : Symbol
  leverage : Decimal
  side : Option Side
  quantity : Decimal
  entryValue : Decimal

/-- `amount` is the text of the message; `lnurl` and `side` are not read. -/
structure SettlementRequest where
  amount : String
  symbol : Symbol

structure ChangeMarginSuccess where
  symbol : Symbol
  amount : Decimal

/-- What the websocket client passes on. The variants `process_msg` only logs
(`Error`, `Success`, `MarkPrices`, `Received`, `Fill`, `Trade` and
`ChangeMarginRejection`) are one. -/
inductive KolliderApiResponse where
  | authenticate (message : String)
  | positionStates (position : PositionState)
  | positions (positions : AList fun _ : Symbol => PositionState)
  | balances (cash : List (Symbol × Decimal))
  | settlementRequest (msg : SettlementRequest)
  | orderInvoice (invoice : String)
  | tradableSymbols (symbols : List (Symbol × TradableSymbol))
  | level2State (msg : Level2State)
  | disconnected
  | reconnected
  | changeMarginSuccess (msg : ChangeMarginSuccess)
  | addMarginRequest (invoice : String)
  | fundingPayment (amount : Decimal)
  | logged

inductive KolliderClientError where
  | websocketSendFailed
  | notConnected
  | positionStateNotAvailable
  | incorrectMarginAmount
  deriving DecidableEq

/-- What the dealer has the websocket client do. -/
inductive WsCall where
  | makeOrder (quantity : Nat) (symbol : Symbol) (side : Side)
  | makeWithdrawal (amount : Nat) (paymentRequest : String)
  | changeMargin (symbol : Symbol) (amount : Int)
  deriving DecidableEq

/-- The websocket client during one call of the dealer: what it knows of the
exchange, and which requests it can send. -/
structure WsClient where
  tradableSymbols : List (Symbol × TradableSymbol)
  positionState : Symbol → Except KolliderClientError (Option PositionState)
  sends : WsCall → Bool

end Lndhubx
