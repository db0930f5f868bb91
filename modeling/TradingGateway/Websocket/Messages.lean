import TradingGateway.Exit.Types

/-!
# Events (`crates/core/src/websocket/messages.rs`)

The messages that providers emit and strategies are sent. Timestamps are left out. Market data,
account, staleness and rate-limit messages are relayed without being looked into; they are one
constructor here, `other`.
-/

namespace Gateway

inductive OrderEventType where
  | orderCreated
  | orderModified
  | orderCancelled
  | orderRejected
  | orderFilled
  | orderPartiallyFilled
  | orderExpired
  | bracketOrderCreated
  | bracketOrderModified
  deriving DecidableEq, Repr

inductive PositionEventType where
  | positionOpened
  | positionModified
  | positionClosed
  deriving DecidableEq, Repr

inductive ConnectionEventType where
  | connected
  | disconnecting
  | reconnecting
  | brokerDisconnected
  | brokerReconnected
  | brokerConnectionFailed
  deriving DecidableEq, Repr

inductive WsErrorCode where
  | invalidMessage
  | internalError
  | positionUnprotected
  | liquidation
  | ocoDoubleExit
  deriving DecidableEq, Repr

inductive PositionSide where
  | long
  | short
  deriving DecidableEq, Repr

/-- Full position details. -/
structure Position where
  id : String
  symbol : String
  side : PositionSide
  quantity : Decimal
  averageEntryPrice : Decimal
  currentPrice : Decimal
  unrealizedPnl : Decimal
  realizedPnl : Decimal
  marginMode : Option MarginMode
  leverage : Option Decimal
  liquidationPrice : Option Decimal
  deriving DecidableEq, Repr

/-- Why an exit leg is not in place: its placement failed, or was put off. -/
inductive ExitFailure where
  | failed (error : String)
  | deferred (reason : Exit.DeferReason)
  deriving DecidableEq, Repr

/-- One element of `failed_exits`. -/
structure FailedExit where
  orderType : Exit.ExitLegType
  error : ExitFailure
  actualOrderIds : List String
  deriving DecidableEq, Repr

/-- One of the two fills of a double exit. -/
structure ExitFill where
  orderId : String
  quantity : Decimal
  side : Side
  deriving DecidableEq, Repr

/-- The JSON details of an error message. -/
inductive ErrorDetails where
  | unprotected (orderId symbol : String) (failedExits : List FailedExit)
      (circuitBreakerOpen rebroadcast : Bool)
  | doubleExit (ocoGroupId symbol : String) (firstFill secondFill : ExitFill)
      (totalExitQuantity : Decimal)
  deriving DecidableEq, Repr

inductive WsMessage where
  | order (event : OrderEventType) (order : Order) (parentOrderId : Option String)
  | position (event : PositionEventType) (position : Position)
  | connection (event : ConnectionEventType) (error broker : Option String)
  | error (code : WsErrorCode) (message : String) (details : Option ErrorDetails)
  | backtestComplete (broker : Option String)
  | close (code : ℕ) (reason : String)
  /-- A message of another type, with that type and its payload. -/
  | other (type payload : String)
  deriving DecidableEq, Repr

/-- The metadata of an internal event. -/
structure OrderContext where
  positionQty : Option Decimal := none
  /-- The quantity of this execution, not the cumulative one. -/
  lastFillQty : Option Decimal := none
  deriving DecidableEq, Repr

/-- An event on the internal channel. -/
structure InternalTradingEvent where
  message : WsMessage
  context : Option OrderContext
  platform : TradingPlatform
  deriving DecidableEq, Repr

def InternalTradingEvent.new (message : WsMessage) (platform : TradingPlatform) :
    InternalTradingEvent := ⟨message, none, platform⟩

end Gateway
