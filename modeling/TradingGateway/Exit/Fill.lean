import TradingGateway.Exit.Coverage
import TradingGateway.Exit.Handler

/-!
# Fills (`crates/core/src/exit_management/fill_handler.rs`)

A fill of a primary order places, for each of its legs, an exit order over what the leg does not
cover yet. A full fill of an exit order resolves its pair of legs. A fill of an order that is
neither is kept for a while, in case its registration is still under way.
-/

namespace Gateway.Exit

variable {β : Type}

/-- How long a fill that matched no pending exits is kept: 30 seconds. -/
def unmatchedFillTtl : Duration := 30 * 10 ^ 9

def maxUnmatchedFills : ℕ := 256

/-! ## Errors of a placement -/

/-- Whether a failed placement counts toward the circuit breaker. -/
def classifyError (error : GatewayError) : ErrorCategory :=
  match error with
  | .rateLimited _ => .rateLimited
  | .providerUnavailable _ => .exchangeUnavailable
  | _ =>
    let text := toLowercase error.display
    if containsWord text "rate limit" || containsWord text "too many requests" then .rateLimited
    else if containsWord text "market is closed" || containsWord text "is not tradable" ||
        containsWord text "symbol is halted" || containsWord text "not accepting orders" then
      .exchangeUnavailable
    else if containsWord text "-1013" || containsWord text "-4014" ||
        containsWord text "maintenance" then
      .exchangeUnavailable
    else .infrastructureFailure

/-- `u32::try_from(n).unwrap_or(u32::MAX)`. -/
def toU32 (n : ℕ) : ℕ := min n (2 ^ 32 - 1)

/-- The error to return at once, or `none` if the submission is to be tried again. -/
def classifyAndHandlePlacementError (config : ExitHandlerConfig) (e : GatewayError)
    (attempt retryCount : ℕ) : Option (PlaceOrderError × ℕ) :=
  let text := toLowercase e.display
  if containsWord text "insufficient" || containsWord text "balance" ||
      containsWord text "not enough" then
    some (.insufficientBalance e.display, retryCount)
  else if containsWord text "wash" || containsWord text "self-trade" then
    some (.washTrade e.display, retryCount)
  else if attempt ≥ config.retryDelays.length then
    some (.failed e.display (toU32 (attempt + 1)) (classifyError e), toU32 (attempt + 1))
  else none

/-! ## Placing an exit order -/

/-- The seed of the client order ids of an entry's exit orders. -/
def idSeed (entry : ExitEntry) : String :=
  match entry.parentClientOrderId with
  | some id => if id.isEmpty then entry.primaryOrderId else id
  | none => entry.primaryOrderId

/-- The client order id of the exit order placed when `existingOrderCount` orders are listed. -/
def exitClientOrderId (seed : String) (leg : ExitLegType) (existingOrderCount : ℕ) : String :=
  if existingOrderCount = 0 then seed ++ "-" ++ leg.clientOrderSuffix
  else seed ++ "-" ++ leg.clientOrderSuffix ++ "-" ++ toString existingOrderCount

def buildExitOrderRequest (entry : ExitEntry) (quantity : Decimal) (existingOrderCount : ℕ)
    (positionId : Option String) : OrderRequest :=
  let (orderType, stopPrice, limitPrice) : OrderType × Option Decimal × Option Decimal :=
    match entry.orderType with
    | .stopLoss =>
      match entry.limitPrice with
      | some limit => (.stopLimit, some entry.triggerPrice, some limit)
      | none => (.stop, some entry.triggerPrice, none)
    | .takeProfit => (.limit, none, some entry.triggerPrice)
  { symbol := entry.symbol
    side := entry.side
    quantity
    orderType
    limitPrice
    stopPrice
    positionId
    clientOrderId := some (exitClientOrderId (idSeed entry) entry.orderType existingOrderCount)
    timeInForce := .gtc
    reduceOnly := positionId.isSome }

/-- The order as far as the handle tells, when its details cannot be fetched. -/
def fallbackOrder (order : OrderRequest) (handle : OrderHandle) : Order where
  id := handle.id
  clientOrderId := order.clientOrderId
  symbol := order.symbol
  side := order.side
  orderType := order.orderType
  quantity := order.quantity
  filledQuantity := 0
  remainingQuantity := order.quantity
  limitPrice := order.limitPrice
  stopPrice := order.stopPrice
  stopLoss := order.stopLoss
  takeProfit := order.takeProfit
  trailingDistance := order.trailingDistance
  trailingType := order.trailingType
  status := handle.status
  positionId := order.positionId
  reduceOnly := some order.reduceOnly
  postOnly := some order.postOnly
  hidden := some order.hidden
  displayQuantity := order.displayQuantity
  ocoGroupId := order.ocoGroupId
  timeInForce := order.timeInForce

/-- The submission loop from `attempt` on, with `remaining` attempts to go. -/
def placeAttempts (c : Ctx β) (placeholderId : String) (order : OrderRequest) :
    ℕ → ℕ → ℕ → ExitM β (Except (PlaceOrderError × ℕ) (Order × ℕ))
  | 0, _, retryCount =>
    pure (.error (.failed "Exhausted all retry attempts" retryCount .infrastructureFailure,
      retryCount))
  | remaining + 1, attempt, retryCount => do
    match ← submitOrder c placeholderId order with
    | .ok handle =>
      match ← getOrder c handle.id with
      | .ok fullOrder => pure (.ok (fullOrder, retryCount))
      | .error _ => pure (.ok (fallbackOrder order handle, retryCount))
    | .error e =>
      match classifyAndHandlePlacementError c.config e attempt retryCount with
      | some err => pure (.error err)
      | none => do
        sleep c (c.config.retryDelays.getD attempt 0)
        placeAttempts c placeholderId order remaining (attempt + 1) (toU32 (attempt + 1))

/-- Submit an exit order, again after each delay of the configuration. -/
def placeOrderWithRetry (c : Ctx β) (placeholderId : String) (order : OrderRequest) :
    ExitM β (Except (PlaceOrderError × ℕ) (Order × ℕ)) :=
  placeAttempts c placeholderId order (c.config.retryDelays.length + 1) 0 0

/-! ## Recording the outcome -/

/-- A partial fill's order is listed, unless the entry has left `Pending` and
`PartiallyTriggered`. -/
def updateEntryPartialFill (newOrder : ActualOrder) (filledQty totalQty : Decimal)
    (entry : ExitEntry) : ExitEntry :=
  match entry.status with
  | .pending => { entry with status := .partiallyTriggered filledQty totalQty [newOrder] }
  | .partiallyTriggered _ total orders =>
    { entry with status := .partiallyTriggered filledQty total (orders ++ [newOrder]) }
  | _ => entry

/-- The full fill's order is listed. Only `PartiallyTriggered` keeps the orders it had. -/
def updateEntryToPlaced (newOrder : ActualOrder) (entry : ExitEntry) : ExitEntry :=
  match entry.status with
  | .partiallyTriggered _ _ orders => { entry with status := .placed (orders ++ [newOrder]) }
  | _ => { entry with status := .placed [newOrder] }

def updateEntryToFailed (errorMessage : String) (retryCount : ℕ) (entry : ExitEntry) : ExitEntry :=
  match entry.status with
  | .partiallyTriggered _ _ orders | .placed orders =>
    entry.setStatus (.failed errorMessage retryCount orders)
  | _ => entry.setStatus (.failed errorMessage retryCount [])

/-- What the entry becomes when the fill's exit order is recorded. `partialFill` is `none` for a
full fill. -/
def recordPlacement (newOrder : ActualOrder) (partialFill : Option (Decimal × Decimal)) :
    ExitEntry → ExitEntry :=
  match partialFill with
  | some (filledQty, totalQty) => updateEntryPartialFill newOrder filledQty totalQty
  | none => updateEntryToPlaced newOrder

section record

variable (o : ActualOrder) (pf : Option (Decimal × Decimal)) (e : ExitEntry)

theorem recordPlacement_eq :
    recordPlacement o pf e = e.setStatus (recordPlacement o pf e).status := by
  unfold recordPlacement updateEntryPartialFill updateEntryToPlaced
  cases pf <;> cases hst : e.status <;> simp [ExitEntry.setStatus, hst] <;> rw [← hst]

/-- An entry that waits for fills keeps its orders and gets the new one. -/
theorem recordPlacement_actualOrders (h : e.isPending = true) :
    (recordPlacement o pf e).actualOrders = e.actualOrders ++ [o] := by
  unfold recordPlacement updateEntryPartialFill updateEntryToPlaced
  cases pf <;> cases hst : e.status <;>
    simp_all [ExitEntry.isPending, ExitEntry.actualOrders, ExitEntryStatus.actualOrders]

/-- It waits on after a partial fill, and is placed after a full one. -/
theorem recordPlacement_status (h : e.isPending = true) :
    pf.isSome = true ∧ (recordPlacement o pf e).isPending = true ∨
      pf = none ∧ ∃ os, (recordPlacement o pf e).status = .placed os := by
  unfold recordPlacement updateEntryPartialFill updateEntryToPlaced
  cases pf <;> cases hst : e.status <;> simp_all [ExitEntry.isPending]

end record

def handleSuccessfulPlacement (placeholderId : String) (entry : ExitEntry) (placedOrder : Order)
    (partialFill : Option (Decimal × Decimal)) : ExitM β PlacementResult := do
  let newOrder : ActualOrder := ⟨placedOrder.id, placedOrder.quantity, .open, entry.orderType⟩
  modifyHandler fun h => h.modifyEntry placeholderId (recordPlacement newOrder partialFill)
  pure ⟨placeholderId, entry.orderType, .success placedOrder.id placedOrder⟩

def handlePlacementError (c : Ctx β) (placeholderId : String) (entry : ExitEntry)
    (err : PlaceOrderError) (retryCount : ℕ) : ExitM β PlacementResult :=
  match err with
  | .insufficientBalance message =>
    pure ⟨placeholderId, entry.orderType, .deferred (.insufficientBalance message)⟩
  | .washTrade message =>
    pure ⟨placeholderId, entry.orderType, .deferred (.washTrade message)⟩
  | .failed message _ category => do
    if category.shouldCountTowardBreaker then
      Routine.modify fun w =>
        { w with
          handler :=
            { w.handler with
              circuitBreaker :=
                w.handler.circuitBreaker.recordFailure (c.adapter.now w.broker) } }
    modifyHandler fun h => h.modifyEntry placeholderId (updateEntryToFailed message retryCount)
    pure ⟨placeholderId, entry.orderType, .failed message retryCount⟩

/-! ## A fill of the primary order -/

/-- The entry, if a fill of `filledQty` is to be processed for it. -/
def validateEntryForFill (placeholderId : String) (filledQty : Decimal) :
    Option ExitEntry → Except PlacementResult ExitEntry
  | none => .error ⟨placeholderId, .stopLoss, .failed "Entry not found" 0⟩
  | some entry =>
    if entry.status.isTerminal then
      .error ⟨placeholderId, entry.orderType, .deferred (.terminalState entry.status)⟩
    else if entry.lastAttemptedFillQty.any fun lastAttempted => filledQty ≤ lastAttempted then
      .error ⟨placeholderId, entry.orderType, .alreadyProcessed⟩
    else .ok entry

/-- The quantity that the entry's orders are to cover. -/
def targetQty (filledQty totalQty : Decimal) (positionQty : Option Decimal) : Decimal :=
  if filledQty < totalQty then filledQty else positionQty.getD totalQty

/-- The quantity of the exit order to place, if it is not below the minimum. -/
def calculateExitQuantity (config : ExitHandlerConfig) (placeholderId : String) (entry : ExitEntry)
    (filledQty totalQty : Decimal) (positionQty : Option Decimal) :
    Except PlacementResult (Decimal × List ActualOrder) :=
  let alreadyCovered := calculateActiveCoverage entry.actualOrders entry.orderType
  let qtyToPlace := targetQty filledQty totalQty positionQty - alreadyCovered
  if qtyToPlace < config.minExitOrderQty then
    .error ⟨placeholderId, entry.orderType,
      .deferred (.belowMinimum qtyToPlace config.minExitOrderQty)⟩
  else .ok (qtyToPlace, entry.actualOrders)

/-- Keep the position that the leg protects, if the fill names it. -/
def recordPositionId (placeholderId : String) : Option String → ExitM β Unit
  | none => pure ()
  | some positionId =>
    modifyHandler fun h => h.modifyEntry placeholderId fun e => { e with positionId }

/-- Remember the fill quantity for which a placement is tried. -/
def updateLastAttemptedFillQty (fillQty : Decimal) (entry : ExitEntry) : ExitEntry :=
  { entry with lastAttemptedFillQty := some fillQty }

/-- Submit the exit order of a fill and record the outcome. -/
def placeExitOrder (c : Ctx β) (placeholderId : String) (entry : ExitEntry) (order : OrderRequest)
    (partialFill : Option (Decimal × Decimal)) : ExitM β PlacementResult := do
  match ← placeOrderWithRetry c placeholderId order with
  | .ok (placedOrder, _) => handleSuccessfulPlacement placeholderId entry placedOrder partialFill
  | .error (err, retryCount) => handlePlacementError c placeholderId entry err retryCount

/-- History: the entry for which an exit order is being placed. -/
def setPlacing (placing : Option String) : ExitM β Unit :=
  Routine.modify fun w => { w with placing }

/-- Process a fill of the primary order for one of its entries. -/
def processEntryFill (c : Ctx β) (placeholderId : String) (filledQty totalQty : Decimal)
    (positionQty : Option Decimal) (positionId : Option String) : ExitM β PlacementResult := do
  let found ← readHandler fun h => h.getEntry placeholderId
  match validateEntryForFill placeholderId filledQty found with
  | .error result => pure result
  | .ok entry => do
    modifyHandler fun h => h.modifyEntry placeholderId (updateLastAttemptedFillQty filledQty)
    match calculateExitQuantity c.config placeholderId entry filledQty totalQty positionQty with
    | .error result => pure result
    | .ok (qtyToPlace, existingOrders) => do
      if ← readHandler fun h => h.circuitBreaker.isOpen then
        pure ⟨placeholderId, entry.orderType, .deferred .circuitBreakerOpen⟩
      else do
        recordPositionId placeholderId positionId
        setPlacing (some placeholderId)
        let result ← placeExitOrder c placeholderId entry
          (buildExitOrderRequest entry qtyToPlace existingOrders.length positionId)
          (if filledQty < totalQty then some (filledQty, totalQty) else none)
        setPlacing none
        pure result

/-- `process_entry_fill` for each of the placeholders. -/
def processEntries (c : Ctx β) (filledQty totalQty : Decimal) (positionQty : Option Decimal)
    (positionId : Option String) : List String → ExitM β (List PlacementResult)
  | [] => pure []
  | placeholderId :: rest => do
    let result ← processEntryFill c placeholderId filledQty totalQty positionQty positionId
    let results ← processEntries c filledQty totalQty positionQty positionId rest
    pure (result :: results)

/-! ## A fill of an exit order -/

/-- Cancel the active ones of `orders`; whether every cancellation succeeded. -/
def cancelActiveOrders (c : Ctx β) : List ActualOrder → ExitM β Bool
  | [] => pure true
  | actual :: rest =>
    if actual.isActive then do
      let r ← cancelOrder c actual.orderId
      let restCancelled ← cancelActiveOrders c rest
      pure (r.isOk && restCancelled)
    else cancelActiveOrders c rest

/-- Cancel a sibling leg's resting orders; drop the leg only if all were cancelled. -/
def cancelExitLegOrders (c : Ctx β) (placeholderId primaryOrderId : String) : ExitM β Unit := do
  match ← readHandler fun h => h.getEntry placeholderId with
  | none => pure ()
  | some entry => do
    if ← cancelActiveOrders c entry.actualOrders then
      modifyHandler fun h => h.removePendingEntry placeholderId primaryOrderId

/-- Resolve the pair of legs when one of the placed exit orders fills. Whether `orderId` is a placed
exit order. -/
def handleExitLegFill (c : Ctx β) (orderId : String) (isFullFill : Bool) : ExitM β Bool := do
  match ← readHandler fun h => h.findEntryByActualOrder orderId with
  | none => pure false
  | some entry =>
    if !isFullFill then pure true
    else do
      modifyHandler fun h => h.removePendingEntry entry.placeholderId entry.primaryOrderId
      match entry.siblingId with
      | some siblingId => cancelExitLegOrders c siblingId entry.primaryOrderId
      | none => pure ()
      pure true

/-! ## A fill of an unknown order -/

/-- Drop the buffered fills older than the TTL. -/
def sweepUnmatchedFills (now : Instant) (fills : Table String BufferedFill) :
    Table String BufferedFill :=
  fills.toList.foldl
    (fun t (key, fill) => if now - fill.bufferedAt ≤ unmatchedFillTtl then t else t.remove key)
    fills

/-- The key of the oldest buffered fill; the first one of several, in the order of the table. -/
def oldestFill (fills : Table String BufferedFill) : Option String :=
  (fills.toList.foldl
    (fun oldest (key, fill) => match oldest with
      | some (key', at') => if fill.bufferedAt < at' then some (key, fill.bufferedAt)
        else some (key', at')
      | none => some (key, fill.bufferedAt)) none).map Prod.fst

/-- Keep a fill that matched no pending exits; the oldest one makes room. -/
def bufferUnmatchedFill (now : Instant) (primaryOrderId : String) (filledQty totalQty : Decimal)
    (positionQty : Option Decimal) (positionId : Option String) (h : ExitHandler) : ExitHandler :=
  let swept := sweepUnmatchedFills now h.unmatchedFills
  let fills :=
    if swept.len ≥ maxUnmatchedFills then
      match oldestFill swept with
      | some key => swept.remove key
      | none => swept
    else swept
  { h with
    unmatchedFills := fills.insert primaryOrderId
      ⟨filledQty, totalQty, positionQty, positionId, now⟩ }

/-- Take a fill out of the buffer (`remove` on the map is atomic). -/
def takeUnmatchedFill (primaryOrderId : String) : ExitM β (Option BufferedFill) :=
  Routine.step fun w =>
    (w.handler.unmatchedFills.get primaryOrderId,
      { w with
        handler :=
          { w.handler with unmatchedFills := w.handler.unmatchedFills.remove primaryOrderId } })

/-! ## The fill event -/

/-- A fill of an order without pending exits: one of the exit orders, or kept for later. The
placeholders to process now, if the registration landed in between. -/
def handleUnmatchedFill (c : Ctx β) (primaryOrderId : String) (filledQty totalQty : Decimal)
    (positionQty : Option Decimal) (positionId : Option String) : ExitM β (List String) := do
  if ← handleExitLegFill c primaryOrderId (filledQty ≥ totalQty) then
    pure []
  else do
    Routine.modify fun w =>
      { w with
        handler := bufferUnmatchedFill (c.adapter.now w.broker) primaryOrderId filledQty totalQty
          positionQty positionId w.handler }
    if ← readHandler fun h => h.hasPendingForPrimary primaryOrderId then
      match ← takeUnmatchedFill primaryOrderId with
      | some _ => readHandler fun h => h.getPlaceholdersForPrimary primaryOrderId
      | none => pure []
    else pure []

/-- Handle a fill event, holding the fill-processing lock. -/
def handleFillInternal (c : Ctx β) (primaryOrderId : String) (filledQty totalQty : Decimal)
    (positionQty : Option Decimal) (positionId : Option String) : ExitM β (List PlacementResult) :=
  Routine.locked do
    if filledQty ≤ 0 || totalQty ≤ 0 then pure []
    else do
      let placeholderIds ← readHandler fun h => h.getPlaceholdersForPrimary primaryOrderId
      if placeholderIds.isEmpty then do
        let reclaimed ←
          handleUnmatchedFill c primaryOrderId filledQty totalQty positionQty positionId
        processEntries c filledQty totalQty positionQty positionId reclaimed
      else processEntries c filledQty totalQty positionQty positionId placeholderIds

def handleFill (c : Ctx β) (primaryOrderId : String) (filledQty totalQty : Decimal)
    (positionQty : Option Decimal) (positionId : Option String) : ExitM β (List PlacementResult) :=
  handleFillInternal c primaryOrderId filledQty totalQty positionQty positionId

/-- Take the order's fill out of the buffer, if there is one, and hand it to `handle`. -/
def replayFill {α : Type} (handle : BufferedFill → ExitM β (List α)) (primaryOrderId : String) :
    ExitM β (List α) := do
  match ← takeUnmatchedFill primaryOrderId with
  | none => pure []
  | some fill => handle fill

/-- Replay a fill that arrived before its order's exits were registered. -/
def processBufferedFill (c : Ctx β) (primaryOrderId : String) : ExitM β (List PlacementResult) :=
  replayFill (fun fill => handleFillInternal c primaryOrderId fill.filledQty fill.totalQty
    fill.positionQty fill.positionId) primaryOrderId

end Gateway.Exit
