import TradingGateway.Exit.Cancellation
import TradingGateway.Exit.Fill
import TradingGateway.State.Manager
import TradingGateway.Trailing.Handler

/-!
# The event router (`crates/core/src/events/router.rs`)

Events of a provider update the cache, go to the exit handler and the trailing-stop handler, cancel
OCO siblings and are broadcast. A router handles its events one after another, so its functions are
functions on the `World`; the calls of the handlers run to their end.

* `Ctx`: what the router is made with and what is set on it after (`set_adapter`,
  `set_trailing_stop_handler`).
* `World`: the handlers, the cache and the broadcast channel. Two fields are history, read by no
  modelled function: the calls that the router made on its collaborators, and the messages that it
  gave out to be broadcast.

Logging and metrics are left out.
-/

namespace Gateway.Events

/-- The broadcast channel to the strategies: for each receiver what it has not read yet. -/
structure Broadcaster where
  receivers : List (List WsMessage)

/-- Send a message to every receiver. `false` if there is none. -/
def Broadcaster.send (b : Broadcaster) (message : WsMessage) : Bool × Broadcaster :=
  (!b.receivers.isEmpty, ⟨b.receivers.map (· ++ [message])⟩)

/-- A call of the router on one of its collaborators. -/
inductive Call where
  | handleFill (orderId : String) (filledQty totalQty : Decimal)
      (positionQty : Option Decimal) (positionId : Option String)
  | handleCancellation (orderId : String)
  | cancelForPositionClose (symbol : String)
  | onPrimaryFilled (orderId : String) (fillPrice : Decimal)
  | onPrimaryCancelled (orderId : String)
  | onPrimaryRejected (orderId : String)
  | cancelOrder (orderId : String)
  deriving DecidableEq, Repr

structure Ctx (β γ : Type) where
  /-- The exit handler, with the adapter. -/
  exit : Exit.Ctx β
  /-- The adapter is set. -/
  adapterSet : Bool
  /-- The trailing-stop handler, if one is set. -/
  trailing : Option (Trailing.Ctx γ)
  /-- The open orders at the provider (`get_orders`). -/
  getOrders : β → Except GatewayError (List Order) × β
  getPositions : β → Except GatewayError (List Position) × β
  /-- The query of an order takes longer than 5 seconds. -/
  timesOut : String → β → Bool
  broadcastEnabled : Bool

structure World (β γ : Type) where
  exit : Exit.World β
  trailing : Trailing.World γ
  state : StateManager
  broadcaster : Broadcaster
  criticalNotificationsDropped : ℕ
  reconciling : Bool
  calls : List Call
  /-- Also what was to be broadcast while nobody listened. -/
  announced : List WsMessage

variable {β γ : Type}

/-- A router with the given provider states and broadcast channel. -/
def World.initial (config : Exit.ExitHandlerConfig) (b : β) (g : γ) (broadcaster : Broadcaster) :
    World β γ where
  exit := .initial config b
  trailing := .initial g
  state := .new
  broadcaster
  criticalNotificationsDropped := 0
  reconciling := false
  calls := []
  announced := []

namespace World

def record (w : World β γ) (call : Call) : World β γ := { w with calls := w.calls ++ [call] }

/-- Broadcast an event, if broadcasts are enabled and somebody listens. Without a receiver the
router does not build the message; `announced` has it all the same. -/
def broadcast (c : Ctx β γ) (message : WsMessage) (w : World β γ) : World β γ :=
  if !c.broadcastEnabled then w
  else
    { w with
      announced := w.announced ++ [message]
      broadcaster :=
        if w.broadcaster.receivers.isEmpty then w.broadcaster
        else (w.broadcaster.send message).2 }

/-- Broadcast a notification that must not be lost; a lost one is counted. -/
def broadcastCritical (message : WsMessage) (w : World β γ) : World β γ :=
  { w with
    announced := w.announced ++ [message]
    broadcaster := (w.broadcaster.send message).2
    criticalNotificationsDropped :=
      if (w.broadcaster.send message).1 then w.criticalNotificationsDropped
      else w.criticalNotificationsDropped + 1 }

end World

/-! ## Exits -/

/-- The reason of a deferral contains `Circuit breaker`. The text of a terminal status is its
`Debug` text, which shows the error and the ids of the orders. -/
def mentionsCircuitBreaker : Exit.DeferReason → Bool
  | .terminalState (.failed error _ orders) => mentions error || orders.any (mentions ·.orderId)
  | .terminalState _ => false
  | .belowMinimum _ _ => false
  | .circuitBreakerOpen => true
  | .insufficientBalance message | .washTrade message => mentions message
where
  mentions (text : String) : Bool := containsWord text.toList "Circuit breaker"

/-- The exits of a fill that are not in place, if that leaves the position unprotected. -/
def failedExits (results : List Exit.PlacementResult) : List FailedExit :=
  results.filterMap fun result =>
    match result.outcome with
    | .failed error _ => some ⟨result.orderType, .failed error, []⟩
    | .deferred reason =>
      if mentionsCircuitBreaker reason then some ⟨result.orderType, .deferred reason, []⟩
      else none
    | _ => none

def unprotectedMessage (order : Order) (failedExits : List FailedExit)
    (circuitBreakerOpen : Bool) : WsMessage :=
  .error .positionUnprotected
    ("Exit order placement failed for " ++ order.symbol ++ " — position may be unprotected")
    (some (.unprotected order.id order.symbol failedExits circuitBreakerOpen false))

def broadcastUnprotectedPositionIfNeeded (order : Order) (results : List Exit.PlacementResult)
    (w : World β γ) : World β γ :=
  if (failedExits results).isEmpty then w
  else
    w.broadcastCritical (unprotectedMessage order (failedExits results)
      w.exit.handler.circuitBreaker.isOpen)

/-- Route a fill to the exit handler. -/
def routeFillToExitHandler (c : Ctx β γ) (order : Order) (w : World β γ) : World β γ :=
  let (results, exit) := (Exit.handleFill c.exit order.id order.filledQuantity order.quantity none
    order.positionId).run w.exit
  { w with exit }
    |>.record (.handleFill order.id order.filledQuantity order.quantity none order.positionId)
    |> broadcastUnprotectedPositionIfNeeded order results

/-! ## Trailing stops -/

/-- Route an order event to the trailing-stop handler, if one is set. -/
def routeTrailingStopEvent (c : Ctx β γ) (event : OrderEventType) (order : Order)
    (w : World β γ) : World β γ :=
  match c.trailing with
  | none => w
  | some tc =>
    match event with
    | .orderFilled =>
      let fillPrice := order.averageFillPrice.getD 0
      let w := w.record (.onPrimaryFilled order.id fillPrice)
      { w with trailing := ((Trailing.onPrimaryFilled tc order.id fillPrice).run w.trailing).2 }
    | .orderCancelled =>
      let w := w.record (.onPrimaryCancelled order.id)
      { w with trailing := ((Trailing.onPrimaryCancelled order.id).run w.trailing).2 }
    | .orderRejected =>
      let w := w.record (.onPrimaryRejected order.id)
      { w with trailing := ((Trailing.onPrimaryRejected order.id).run w.trailing).2 }
    | _ => w

/-! ## The cache -/

def updateStateForOrderEvent (event : OrderEventType) (order : Order) (s : StateManager) :
    StateManager :=
  match event with
  | .orderCreated | .orderModified | .bracketOrderCreated | .bracketOrderModified =>
    s.upsertOrder order
  | .orderPartiallyFilled => s.updateOrderFill order.id order.filledQuantity order.status
  | .orderFilled => s.removeOrder order.id
  | .orderCancelled | .orderRejected | .orderExpired => s.removeOrder order.id

def isFillEvent : OrderEventType → Bool
  | .orderFilled | .orderPartiallyFilled => true
  | _ => false

/-! ## OCO siblings -/

def doubleExitMessage (groupId : String) (firstFill : OcoFillRecord) (secondFill : Order) :
    WsMessage :=
  let totalExitQty := firstFill.firstFilledQty + secondFill.filledQuantity
  .error .ocoDoubleExit
    ("OCO double-exit on " ++ secondFill.symbol ++ ": both SL and TP filled (total exit qty: " ++
      totalExitQty.display ++ ")")
    (some (.doubleExit groupId secondFill.symbol
      ⟨firstFill.firstFilledOrderId, firstFill.firstFilledQty, firstFill.side⟩
      ⟨secondFill.id, secondFill.filledQuantity, secondFill.side⟩ totalExitQty))

/-- Cancel an order at the provider; an error is only logged. -/
def cancelSibling (c : Ctx β γ) (w : World β γ) (siblingId : String) : World β γ :=
  { w with exit := ((Exit.cancelOrder c.exit siblingId).run w.exit).2 }
    |>.record (.cancelOrder siblingId)

/-- The group of an order: the event's own, or else the one that the cache has. -/
def ocoGroupOf (order : Order) (s : StateManager) : Option String :=
  order.ocoGroupId.or (s.getOcoGroupId order.id)

/-- Cancel the other orders of the group when one fills or is rejected. -/
def cancelOcoSiblings (c : Ctx β γ) (filledOrder : Order) (w : World β γ) : World β γ :=
  match ocoGroupOf filledOrder w.state with
  | none => w
  | some groupId =>
    match w.state.recordOcoFill groupId filledOrder.id filledOrder.filledQuantity
        filledOrder.symbol filledOrder.side with
    | (some previousFill, state) =>
      { w with state }.broadcastCritical (doubleExitMessage groupId previousFill filledOrder)
    | (none, state) =>
      (state.getOcoSiblings groupId filledOrder.id).foldl (cancelSibling c) { w with state }

/-! ## Order events -/

/-- Route a fill, if the event is one. -/
def routeFill (c : Ctx β γ) (event : OrderEventType) (order : Order) (w : World β γ) : World β γ :=
  if isFillEvent event && c.adapterSet then routeFillToExitHandler c order w else w

/-- The order leaves its OCO group by a full fill or a rejection. -/
def cancelsSiblings : OrderEventType → Bool
  | .orderFilled | .orderRejected => true
  | _ => false

def handleOrderEvent (c : Ctx β γ) (event : OrderEventType) (order : Order)
    (parentOrderId : Option String) (w : World β γ) : World β γ :=
  let w := { w with state := updateStateForOrderEvent event order w.state }
  let w := routeFill c event order w
  let w := routeTrailingStopEvent c event order w
  let w := if cancelsSiblings event && c.adapterSet then cancelOcoSiblings c order w else w
  w.broadcast c (.order event order parentOrderId)

/-- A cancellation, with that of the pending exits. No code of the gateway calls it. -/
def handleOrderCancelled (c : Ctx β γ) (order : Order) (w : World β γ) : World β γ :=
  let w := { w with state := w.state.removeOrder order.id }
  let w :=
    if w.exit.handler.hasPendingForPrimary order.id then
      { w with exit := ((Exit.handleCancellationInternal order.id).run w.exit).2 }
        |>.record (.handleCancellation order.id)
    else w
  w.broadcast c (.order .orderCancelled order none)

/-! ## Position events -/

def handlePositionEvent (c : Ctx β γ) (event : PositionEventType) (position : Position)
    (w : World β γ) : World β γ :=
  let w :=
    match event with
    | .positionOpened | .positionModified => { w with state := w.state.upsertPosition position }
    | .positionClosed =>
      let w := { w with state := w.state.removePosition position.id }
      if c.adapterSet then
        { w with
          exit := ((Exit.cancelForPositionCloseInternal c.exit position.symbol).run w.exit).2 }
          |>.record (.cancelForPositionClose position.symbol)
      else w
  w.broadcast c (.position event position)

/-- The event for a position that goes from one absolute quantity to another, if it is one. -/
def positionEventType (previousQty positionQty : Decimal) : Option PositionEventType :=
  if previousQty = 0 then
    if positionQty = 0 then none else some .positionOpened
  else if positionQty = 0 then some .positionClosed
  else if previousQty ≠ positionQty then some .positionModified
  else none

/-- The position that a fill is taken to leave. -/
def synthesizedPosition (order : Order) (positionQty : Decimal)
    (previous : Option CachedPosition) : Position where
  id := order.symbol ++ "_position"
  symbol := order.symbol
  side :=
    if 0 < positionQty then .long
    else if positionQty < 0 then .short
    else (previous.map CachedPosition.side).getD .long
  quantity := |positionQty|
  averageEntryPrice := order.averageFillPrice.getD 0
  currentPrice := 0
  unrealizedPnl := 0
  realizedPnl := 0
  marginMode := none
  leverage := none
  liquidationPrice := none

def synthesizePositionFromFill (c : Ctx β γ) (order : Order) (positionQty : Decimal)
    (w : World β γ) : World β γ :=
  let previous := w.state.getPositionBySymbol order.symbol
  match positionEventType ((previous.map CachedPosition.quantity).getD 0) |positionQty| with
  | none => w
  | some event => handlePositionEvent c event (synthesizedPosition order positionQty previous) w

/-! ## Reconnects -/

def handleConnectionEvent (c : Ctx β γ) (event : ConnectionEventType) (error : Option String)
    (w : World β γ) : World β γ :=
  w.broadcast c (.connection event error none)

/-- The event that explains the difference between the cached order and the provider's. -/
def detectStatusChange (cachedStatus : Option OrderStatus) (cachedFilledQty : Decimal)
    (providerOrder : Order) : Option OrderEventType :=
  match providerOrder.status with
  | .filled => if cachedStatus ≠ some .filled then some .orderFilled else none
  | .cancelled => if cachedStatus ≠ some .cancelled then some .orderCancelled else none
  | .rejected => if cachedStatus ≠ some .rejected then some .orderRejected else none
  | .expired => if cachedStatus ≠ some .expired then some .orderExpired else none
  | .partiallyFilled =>
    if providerOrder.filledQuantity > cachedFilledQty then some .orderPartiallyFilled else none
  | _ => none

/-- A cached order with the provider's answer; `none` if the query timed out. -/
structure Fetched where
  orderId : String
  cachedStatus : Option OrderStatus
  cachedFilledQty : Decimal
  answer : Option (Except GatewayError Order)

/-- Query an order. -/
def fetchOrder (c : Ctx β γ) (s : StateManager) (orderId : String) (b : β) : Fetched × β :=
  let cached := s.getOrder orderId
  let fetched := Fetched.mk orderId (cached.map CachedOrder.status)
    ((cached.map CachedOrder.filledQuantity).getD 0)
  if c.timesOut orderId b then (fetched none, b)
  else
    let (answer, b) := c.exit.adapter.getOrder orderId b
    (fetched (some answer), b)

def fetchOrders (c : Ctx β γ) (s : StateManager) : List String → β → List Fetched × β
  | [], b => ([], b)
  | orderId :: rest, b =>
    let (fetched, b) := fetchOrder c s orderId b
    let (more, b) := fetchOrders c s rest b
    (fetched :: more, b)

/-- Handle a change that was missed. -/
def applyMissedEvent (c : Ctx β γ) (event : OrderEventType) (providerOrder : Order)
    (w : World β γ) : World β γ :=
  let w := { w with state := updateStateForOrderEvent event providerOrder w.state }
  let w := if isFillEvent event then routeFillToExitHandler c providerOrder w else w
  w.broadcast c (.order event providerOrder none)

/-- One round of the loop over the fetched orders. -/
def reconcileOrder (c : Ctx β γ) (w : World β γ) (f : Fetched) : World β γ :=
  match f.answer with
  | none => w
  | some (.ok providerOrder) =>
    match detectStatusChange f.cachedStatus f.cachedFilledQty providerOrder with
    | some event => applyMissedEvent c event providerOrder w
    | none => w
  | some (.error (.orderNotFound _)) => { w with state := w.state.removeOrder f.orderId }
  | some (.error _) => w

def rebroadcastMessage (primaryOrderId : String) (entries : List Exit.FailedExitInfo)
    (circuitBreakerOpen : Bool) : WsMessage :=
  let symbol := (entries.head?.map Exit.FailedExitInfo.symbol).getD ""
  .error .positionUnprotected
    ("Exit order placement failed for " ++ symbol ++
      " — position may be unprotected (re-broadcast on reconnect)")
    (some (.unprotected primaryOrderId symbol
      (entries.map fun e => ⟨e.orderType, .failed e.error, e.actualOrderIds⟩)
      circuitBreakerOpen true))

/-- Announce the failed entries again, one notification for each primary order. -/
def rebroadcastUnprotectedPositions (failed : List Exit.FailedExitInfo) (w : World β γ) :
    World β γ :=
  (Exit.groupByKey (failed.map fun e => (e.primaryOrderId, e))).foldl
    (fun w (primaryOrderId, entries) =>
      w.broadcastCritical (rebroadcastMessage primaryOrderId entries
        w.exit.handler.circuitBreaker.isOpen)) w

/-- The end of a reconciliation: the cache is replaced, failed exits are announced again. -/
def finishReconcile (c : Ctx β γ) (orders : List Order) (positions : List Position)
    (w : World β γ) : World β γ :=
  let w := { w with state := .syncFromProvider orders positions }
  let failed := w.exit.handler.getFailedEntries
  let w :=
    if failed.isEmpty then w
    else
      let w := rebroadcastUnprotectedPositions failed w
      { w with exit := { w.exit with handler := w.exit.handler.clearFailedEntries } }
  handleConnectionEvent c .connected none w

/-- Give the provider a new state. -/
def World.setBroker (w : World β γ) (broker : β) : World β γ :=
  { w with exit := { w.exit with broker } }

/-- The body of `reconcile_after_reconnect`, behind its guard. -/
def reconcileBody (c : Ctx β γ) (w : World β γ) : World β γ :=
  if !c.adapterSet then w
  else
    let (fetched, b) := fetchOrders c w.state w.state.getAllOrderIds w.exit.broker
    let w := fetched.foldl (reconcileOrder c) (w.setBroker b)
    let (orders, b) := c.getOrders w.exit.broker
    let w := w.setBroker b
    match orders with
    | .error _ => w
    | .ok orders =>
      let (positions, b) := c.getPositions w.exit.broker
      let w := w.setBroker b
      match positions with
      | .error _ => w
      | .ok positions => finishReconcile c orders positions w

def reconcileAfterReconnect (c : Ctx β γ) (w : World β γ) : World β γ :=
  if w.reconciling then w
  else { reconcileBody c { w with reconciling := true } with reconciling := false }

/-- The simulated provider, with a trailing-stop handler and broadcasts. -/
def Ctx.simulated : Ctx (List (String × OrderRequest)) ℕ where
  exit := .simulated
  adapterSet := true
  trailing := some .simulated
  getOrders b := (.ok (b.map fun (id, r) => r.toOrder id), b)
  getPositions b := (.ok [], b)
  timesOut _ _ := false
  broadcastEnabled := true

/-- A router without receivers on its channel. -/
def World.simulated : World (List (String × OrderRequest)) ℕ := .initial {} [] 0 ⟨[]⟩

end Gateway.Events
