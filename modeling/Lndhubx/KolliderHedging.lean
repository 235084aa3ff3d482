import Lndhubx.Kollider

/-!
# The websocket client

`kollider_hedging/src/lib.rs`. A thread of its own reads the exchange's messages,
keeps what they say in a state that it shares with the dealer (`HedgingState`),
and hands them on, in order, to a channel that the dealer's loop reads. When the
socket closes, the shared state is cleared and `Disconnected` is handed on; when
it has been opened again, `Reconnected`.

`mark_prices` and `balances` are read for the dealer's metrics only, and are left
out with them.
-/

namespace Lndhubx

/-- `State`: what the thread shares with the dealer. -/
structure HedgingState where
  isConnected : Bool
  isAuthenticated : Bool
  hasReceivedPositions : Bool
  positionStates : AList fun _ : Symbol => PositionState
  tradableSymbols : List (Symbol × TradableSymbol)

namespace HedgingState

def new : HedgingState where
  isConnected := false
  isAuthenticated := false
  hasReceivedPositions := false
  positionStates := ∅
  tradableSymbols := []

def clear (_ : HedgingState) : HedgingState := new

/-- The new state, and what is handed on. -/
def setDisconnected (c : HedgingState) : HedgingState × List KolliderApiResponse :=
  (c.clear, [.disconnected])

def setReconnected (c : HedgingState) : HedgingState × List KolliderApiResponse :=
  ({ c with isAuthenticated := false, isConnected := true }, [.reconnected])

/-- What is not handed on is dropped, also a `Disconnected` that the exchange itself
should send. Of the messages that the dealer only logs, one is handed on. -/
def processIncomingMessage (response : KolliderApiResponse) (c : HedgingState) :
    HedgingState × List KolliderApiResponse :=
  match response with
  | .authenticate message =>
    (if message = "success" then { c with isAuthenticated := true } else c, [response])
  | .positionStates position =>
    ({ c with positionStates := c.positionStates.insert position.symbol position }, [response])
  | .positions positions =>
    ({ c with positionStates := positions, hasReceivedPositions := true }, [response])
  | .tradableSymbols symbols => ({ c with tradableSymbols := symbols }, [response])
  | .disconnected => (c, [])
  | .reconnected => (c, [])
  | .balances _ | .settlementRequest _ | .orderInvoice _ | .level2State _
  | .changeMarginSuccess _ | .addMarginRequest _ | .fundingPayment _ | .logged => (c, [response])

def getPositionState (c : HedgingState) (symbol : Symbol) :
    Except KolliderClientError (Option PositionState) :=
  if c.hasReceivedPositions then .ok (c.positionStates.lookup symbol)
  else .error .positionStateNotAvailable

end HedgingState

/-- What the dealer is told during a call in which the shared state does not change.
Without a connection nothing is sent; otherwise it may still fail to be. -/
structure Shows (c : HedgingState) (ws : WsClient) : Prop where
  tradableSymbols : ws.tradableSymbols = c.tradableSymbols
  positionState : ws.positionState = c.getPositionState
  sends : c.isConnected = false → ∀ call, ws.sends call = false

end Lndhubx
