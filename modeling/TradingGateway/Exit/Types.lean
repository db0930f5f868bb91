import TradingGateway.Error

/-!
# Exit entries (`crates/core/src/exit_management/types.rs`)

An exit entry is a stop-loss or take-profit leg that the gateway places itself, one provider order
for each fill of the primary order. Audit timestamps and the version counter are left out, as no
function reads them; `createdAt` stays, for the expiry of entries.
-/

namespace Gateway.Exit

/-- The leg of an exit: stop-loss or take-profit. -/
inductive ExitLegType where
  | stopLoss
  | takeProfit
  deriving DecidableEq, Repr

namespace ExitLegType

/-- The start of a placeholder id. -/
def idPrefix : ExitLegType → String
  | stopLoss => "exit:sl:"
  | takeProfit => "exit:tp:"

/-- The leg's part of a client order id. -/
def clientOrderSuffix : ExitLegType → String
  | stopLoss => "sl"
  | takeProfit => "tp"

def display : ExitLegType → String
  | stopLoss => "stop_loss"
  | takeProfit => "take_profit"

/-- The other leg of a pair. -/
def other : ExitLegType → ExitLegType
  | stopLoss => takeProfit
  | takeProfit => stopLoss

end ExitLegType

/-- The status of one order at the provider. -/
inductive ActualOrderStatus where
  | open
  | partiallyFilled (filledQty : Decimal)
  | filled
  | pendingCancel
  | cancelled
  | rejected (reason : String)
  | expired
  | unknown
  deriving DecidableEq, Repr

/-- One order placed at the provider for an exit entry. -/
structure ActualOrder where
  orderId : String
  /-- The quantity of this order alone. -/
  quantity : Decimal
  status : ActualOrderStatus
  legType : ExitLegType
  deriving DecidableEq, Repr

namespace ActualOrder

/-- The quantity still unfilled. -/
def remainingQty (o : ActualOrder) : Decimal :=
  match o.status with
  | .open => o.quantity
  | .partiallyFilled filledQty => max (o.quantity - filledQty) 0
  | .filled | .pendingCancel | .cancelled | .rejected _ | .expired | .unknown => 0

/-- The order covers the position. -/
def isActive (o : ActualOrder) : Bool :=
  match o.status with
  | .open | .partiallyFilled _ => true
  | _ => false

end ActualOrder

inductive CancellationReason where
  | primaryCancelled
  | primaryRejected
  | siblingFilled
  | userRequested
  | positionClosed
  | systemCleanup
  | ocoSucceeded
  deriving DecidableEq, Repr

/-- The status of an exit entry. -/
inductive ExitEntryStatus where
  /-- Waiting for the primary order to fill. -/
  | pending
  /-- The primary order has filled in part; orders are placed for that part. -/
  | partiallyTriggered (filledQty totalQty : Decimal) (actualOrders : List ActualOrder)
  /-- The exit orders are placed. -/
  | placed (actualOrders : List ActualOrder)
  /-- A placement failed; orders placed before it stay listed. -/
  | failed (error : String) (retryCount : ℕ) (actualOrders : List ActualOrder)
  | cancelled (reason : CancellationReason)
  | expired
  deriving DecidableEq, Repr

namespace ExitEntryStatus

/-- The orders placed at the provider for the entry. -/
def actualOrders : ExitEntryStatus → List ActualOrder
  | partiallyTriggered _ _ os | placed os | failed _ _ os => os
  | pending | cancelled _ | expired => []

/-- `Cancelled`, `Failed` or `Expired`: no fill is processed any more. -/
def isTerminal : ExitEntryStatus → Bool
  | cancelled _ | failed _ _ _ | expired => true
  | _ => false

/-- Neither `Cancelled` nor `Expired`. -/
def isTracking : ExitEntryStatus → Bool
  | cancelled _ | expired => false
  | _ => true

end ExitEntryStatus

def generatePlaceholderId (orderType : ExitLegType) (primaryOrderId : String) : String :=
  orderType.idPrefix ++ primaryOrderId

/-- Exits are on the opposite side of the primary order. -/
def oppositeSide : Side → Side
  | .buy => .sell
  | .sell => .buy

/-- What is reported of a cancelled exit entry. -/
structure CancelledExitInfo where
  placeholderId : String
  primaryOrderId : String
  legType : ExitLegType
  platform : String
  symbol : String
  side : Side
  triggerPrice : Decimal
  quantity : Decimal
  deriving DecidableEq, Repr

/-- A stop-loss or take-profit leg of a primary order. -/
structure ExitEntry where
  placeholderId : String
  primaryOrderId : String
  /-- The position that the leg protects, learned from the primary order's fill. -/
  positionId : Option String
  /-- The client-assigned id of the primary order, if it has one. -/
  parentClientOrderId : Option String
  orderType : ExitLegType
  symbol : String
  side : Side
  triggerPrice : Decimal
  limitPrice : Option Decimal
  quantity : Decimal
  status : ExitEntryStatus
  createdAt : Instant
  platform : TradingPlatform
  siblingId : Option String
  /-- The last fill quantity for which a placement was tried. -/
  lastAttemptedFillQty : Option Decimal
  deriving DecidableEq, Repr

structure ExitEntryParams where
  primaryOrderId : String
  parentClientOrderId : Option String
  orderType : ExitLegType
  symbol : String
  side : Side
  triggerPrice : Decimal
  limitPrice : Option Decimal
  quantity : Decimal
  platform : TradingPlatform

namespace ExitEntry

def new (params : ExitEntryParams) (now : Instant) : ExitEntry where
  placeholderId := generatePlaceholderId params.orderType params.primaryOrderId
  primaryOrderId := params.primaryOrderId
  positionId := none
  parentClientOrderId := params.parentClientOrderId
  orderType := params.orderType
  symbol := params.symbol
  side := params.side
  triggerPrice := params.triggerPrice
  limitPrice := params.limitPrice
  quantity := params.quantity
  status := .pending
  createdAt := now
  platform := params.platform
  siblingId := none
  lastAttemptedFillQty := none

def setStatus (e : ExitEntry) (status : ExitEntryStatus) : ExitEntry := { e with status }

def setPrimary (primaryOrderId : String) (e : ExitEntry) : ExitEntry := { e with primaryOrderId }

def setSibling (siblingId : String) (e : ExitEntry) : ExitEntry := { e with siblingId }

/-- The entry still waits for fills of its primary order. -/
def isPending (e : ExitEntry) : Bool :=
  match e.status with
  | .pending | .partiallyTriggered _ _ _ => true
  | _ => false

theorem isTerminal_of_isPending {e : ExitEntry} (h : e.isPending = true) :
    e.status.isTerminal = false := by
  unfold isPending at h
  cases hst : e.status <;> simp_all [ExitEntryStatus.isTerminal]

/-- The orders placed at the provider for the entry. -/
def actualOrders (e : ExitEntry) : List ActualOrder := e.status.actualOrders

def cancelledInfo (e : ExitEntry) (placeholderId : String) : CancelledExitInfo where
  placeholderId
  primaryOrderId := e.primaryOrderId
  legType := e.orderType
  platform := e.platform.headerValue
  symbol := e.symbol
  side := e.side
  triggerPrice := e.triggerPrice
  quantity := e.quantity

end ExitEntry

structure RegisteredExitLegs where
  stopLossId : Option String := none
  takeProfitId : Option String := none
  deriving DecidableEq, Repr

structure ExitHandlerConfig where
  maxPendingEntries : ℕ := 10000
  entryTtl : Duration := 86400 * 10 ^ 9
  circuitBreakerThreshold : ℕ := 3
  circuitBreakerWindow : Duration := 300 * 10 ^ 9
  /-- Below this quantity no exit order is placed. -/
  minExitOrderQty : Decimal := 1 / 1000
  retryDelays : List Duration := [100 * 10 ^ 6, 300 * 10 ^ 6, 1000 * 10 ^ 6]
  deriving DecidableEq, Repr

/-- Why a placement was put off, with the values its text shows. -/
inductive DeferReason where
  | terminalState (status : ExitEntryStatus)
  | belowMinimum (qtyToPlace minimum : Decimal)
  | circuitBreakerOpen
  | insufficientBalance (message : String)
  | washTrade (message : String)
  deriving DecidableEq, Repr

inductive PlacementOutcome where
  | success (actualOrderId : String) (order : Order)
  | failed (error : String) (retryCount : ℕ)
  | alreadyProcessed
  | deferred (reason : DeferReason)
  deriving DecidableEq, Repr

/-- The result of one placement. -/
structure PlacementResult where
  placeholderId : String
  orderType : ExitLegType
  outcome : PlacementOutcome
  deriving DecidableEq, Repr

inductive ErrorCategory where
  | infrastructureFailure
  | rateLimited
  | exchangeUnavailable
  deriving DecidableEq, Repr

def ErrorCategory.shouldCountTowardBreaker : ErrorCategory → Bool
  | infrastructureFailure => true
  | _ => false

inductive PlaceOrderError where
  | failed (message : String) (retryCount : ℕ) (category : ErrorCategory)
  | insufficientBalance (message : String)
  | washTrade (message : String)
  deriving DecidableEq, Repr

end Gateway.Exit
